import EntityStore.Query.Method
import Mathlib
/-!
# The grammar of method names

A method name is a word for the form and a chain of tokens joined by `And`.  The same letters can
also stand inside of a token, so that not every chain gives back the tokens that it was joined
from.  It does for tokens that hold no `And` where the parser would cut (`Cut`), and these are the
tokens that the parser returns.

* Splitting a chain and joining the tokens gives the chain (`joined_splitChain`).
* The tokens of a chain are uncut (`uncut_splitChain`).
* Uncut tokens are what their chain is split into (`splitChain_joined`).

All three go by the recursion of `splitChain`, for any value of its flag.  Main statement:
`parse_grammar`.
-/

namespace EntityStore.Query.Method

/-! ## 1. Chains of tokens -/

/-- What joins two tokens. -/
def conjunction : List Char :=
  "And".toList

/-- Tokens joined to a chain. -/
def joined (tokens : List (List Char)) : List Char :=
  conjunction.intercalate tokens

/-- What follows a token in a chain: a conjunction, unless the token is the last one. -/
def separator : List (List Char) → List Char
  | [] => []
  | _ :: _ => conjunction

/-- A token has a conjunction inside, after its first letter, and an upper-case letter directly
after that, be it of the token or of what follows in the chain. -/
def Cut (token next : List Char) : Prop :=
  ∃ before after, before ≠ [] ∧ token = before ++ conjunction ++ after ∧
    upperNext (after ++ next) = true

/-- No token is cut by a conjunction inside it. -/
def Uncut (tokens : List (List Char)) : Prop :=
  ∀ before token after, tokens = before ++ token :: after → ¬Cut token (separator after)

/-- Tokens that a chain can be split into: there is at least one, each is an upper-case letter
followed by letters and digits, and none is cut. -/
structure Canonical (tokens : List (List Char)) : Prop where
  nonempty : tokens ≠ []
  isToken : ∀ token ∈ tokens, isToken token = true
  uncut : Uncut tokens

@[simp]
theorem joined_singleton (token : List Char) : joined [token] = token := by
  simp [joined]

@[simp]
theorem joined_cons_cons (token next : List Char) (rest : List (List Char)) :
    joined (token :: next :: rest) = token ++ conjunction ++ joined (next :: rest) := by
  simp [joined, List.intercalate, List.intersperse]

/-- The first token of a chain stands before the separator and the rest of the chain. -/
theorem joined_cons (token : List Char) (others : List (List Char)) :
    joined (token :: others) = token ++ separator others ++ joined others := by
  cases others with
  | nil => simp [separator, joined]
  | cons next rest => rw [joined_cons_cons]; rfl

/-- A longer first token makes a longer chain. -/
theorem joined_append (front token : List Char) (others : List (List Char)) :
    joined ((front ++ token) :: others) = front ++ joined (token :: others) := by
  simp only [joined_cons, List.append_assoc]

/-- **Joining undoes splitting.** -/
theorem joined_splitChain (begun : Bool) (chain : List Char) :
    joined ((splitChain begun chain).1 :: (splitChain begun chain).2) = chain := by
  fun_induction splitChain begun chain with
  | case1 begun rest _ token others hsplit ih =>
    rw [hsplit] at ih
    rw [joined_cons_cons, ih]
    rfl
  | case2 begun rest _ token others hsplit ih =>
    rw [hsplit] at ih
    exact (joined_append conjunction token others).trans (congrArg _ ih)
  | case3 begun c rest _ token others hsplit ih =>
    rw [hsplit] at ih
    exact (joined_append [c] token others).trans (congrArg _ ih)
  | case4 begun => exact joined_singleton []

/-! ## 2. Where a chain is cut

A chain is split with a flag that says whether a part of the first token was read already.  A
conjunction at the head of what is left then stands inside of the token, too. -/

/-- `Cut` for a token of which a part may stand before. -/
def CutFrom (begun : Bool) (token next : List Char) : Prop :=
  ∃ before after, (before = [] → begun = true) ∧ token = before ++ conjunction ++ after ∧
    upperNext (after ++ next) = true

theorem cutFrom_false (token next : List Char) : CutFrom false token next ↔ Cut token next := by
  simp [CutFrom, Cut]

theorem not_cutFrom_nil (begun : Bool) (next : List Char) : ¬CutFrom begun [] next := by
  rintro ⟨before, after, -, heq, -⟩
  simp [conjunction] at heq

/-- A token is cut at its first letter or later. -/
theorem cutFrom_cons (begun : Bool) (c : Char) (token next : List Char) :
    CutFrom begun (c :: token) next ↔
      (begun = true ∧ ∃ after, c :: token = conjunction ++ after ∧
        upperNext (after ++ next) = true) ∨
      CutFrom true token next := by
  constructor
  · rintro ⟨before, after, hbegun, heq, hupper⟩
    cases before with
    | nil => exact .inl ⟨hbegun rfl, after, heq, hupper⟩
    | cons b before =>
      have htail : token = before ++ conjunction ++ after := (List.cons.inj heq).2
      exact .inr ⟨before, after, fun _ => rfl, htail, hupper⟩
  · rintro (⟨hbegun, after, heq, hupper⟩ | ⟨before, after, -, heq, hupper⟩)
    · exact ⟨[], after, fun _ => hbegun, heq, hupper⟩
    · exact ⟨c :: before, after, nofun, by rw [heq]; rfl, hupper⟩

/-- Whether a token that begins with a conjunction is cut. -/
theorem cutFrom_conjunction (begun : Bool) (token next : List Char) :
    CutFrom begun (conjunction ++ token) next ↔
      (begun = true ∧ upperNext (token ++ next) = true) ∨ CutFrom true token next := by
  show CutFrom begun ('A' :: 'n' :: 'd' :: token) next ↔ _
  rw [cutFrom_cons, cutFrom_cons, cutFrom_cons]
  simp [conjunction]

theorem uncut_cons (token : List Char) (others : List (List Char)) :
    Uncut (token :: others) ↔ ¬Cut token (separator others) ∧ Uncut others := by
  constructor
  · intro h
    refine ⟨h [] token others rfl, ?_⟩
    intro before other after heq
    exact h (token :: before) other after (by rw [heq]; rfl)
  · rintro ⟨hfirst, hothers⟩ before other after heq
    cases before with
    | nil =>
      obtain ⟨rfl, rfl⟩ := List.cons.inj heq
      exact hfirst
    | cons b before => exact hothers before other after (List.cons.inj heq).2

theorem uncut_nil : Uncut [] := by
  intro before token after heq
  simp at heq

/-- The letter that comes next in a chain is in the first token or in what follows it. -/
theorem upperNext_joined (token : List Char) (others : List (List Char)) :
    upperNext (joined (token :: others)) = upperNext (token ++ separator others) := by
  rw [joined_cons]
  cases token with
  | cons c token => rfl
  | nil =>
    cases others with
    | nil => rfl
    | cons next rest => rfl

/-- A conjunction at the head of a chain belongs to the first token as a whole, if a letter of
it does. -/
theorem eq_append_of_joined {token rest : List Char} {others : List (List Char)}
    (hne : token ≠ []) (h : joined (token :: others) = conjunction ++ rest) :
    ∃ tail, token = conjunction ++ tail ∧ rest = joined (tail :: others) := by
  rw [joined_cons] at h
  match token, others with
  | a :: b :: c :: tail, others =>
    obtain ⟨rfl, rfl, rfl, hrest⟩ : a = 'A' ∧ b = 'n' ∧ c = 'd' ∧
        tail ++ separator others ++ joined others = rest := by
      simpa [conjunction] using h
    exact ⟨tail, rfl, by rw [joined_cons, hrest]⟩
  | [a, b], [] => simp [separator, joined, conjunction] at h
  | [a, b], _ :: _ => simp [separator, conjunction] at h
  | [a], [] => simp [separator, joined, conjunction] at h
  | [a], _ :: _ => simp [separator, conjunction] at h

/-- **No token of a chain is cut.** -/
theorem uncut_splitChain (begun : Bool) (chain : List Char) :
    ¬CutFrom begun (splitChain begun chain).1 (separator (splitChain begun chain).2) ∧
      Uncut (splitChain begun chain).2 := by
  fun_induction splitChain begun chain with
  | case1 begun rest _ token others hsplit ih =>
    rw [hsplit, cutFrom_false] at ih
    exact ⟨not_cutFrom_nil _ _, (uncut_cons token others).mpr ih⟩
  | case2 begun rest hkept token others hsplit ih =>
    have hjoin := joined_splitChain true rest
    rw [hsplit] at ih hjoin
    refine ⟨?_, ih.2⟩
    show ¬CutFrom begun (conjunction ++ token) (separator others)
    rw [cutFrom_conjunction, ← upperNext_joined, hjoin]
    rintro (⟨hbegun, hupper⟩ | hcut)
    · exact hkept (by rw [hbegun, hupper]; rfl)
    · exact ih.1 hcut
  | case3 begun c rest hother token others hsplit ih =>
    have hjoin := joined_splitChain true rest
    rw [hsplit] at ih hjoin
    refine ⟨?_, ih.2⟩
    rw [cutFrom_cons]
    rintro (⟨-, after, heq, -⟩ | hcut)
    · obtain ⟨rfl, rfl⟩ := List.cons.inj heq
      exact hother _ rfl (hjoin.symm.trans (joined_append ['n', 'd'] after others))
    · exact ih.1 hcut
  | case4 begun => exact ⟨not_cutFrom_nil _ _, uncut_nil⟩

/-! ## 3. Chains are split where they were joined -/

/-- A token begins with an upper-case letter. -/
theorem upperNext_of_isToken {token : List Char} (h : isToken token = true) :
    token ≠ [] ∧ ∀ next, upperNext (token ++ next) = true := by
  cases token with
  | nil => cases h
  | cons c rest =>
    refine ⟨nofun, ?_⟩
    intro next
    exact (Bool.and_eq_true_iff.mp h).1

/-- **Splitting undoes joining.**  If a part of the first token was read already, the token may be
empty. -/
theorem splitChain_joined (begun : Bool) (chain : List Char) (token : List Char)
    (others : List (List Char)) (hchain : chain = joined (token :: others))
    (hfirst : ¬CutFrom begun token (separator others)) (hothers : Uncut others)
    (htokens : ∀ other ∈ others, isToken other = true)
    (hbegun : others ≠ [] → token = [] → begun = true) :
    splitChain begun chain = (token, others) := by
  fun_induction splitChain begun chain generalizing token others with
  | case1 begun rest hcut first following hsplit ih =>
    obtain ⟨hread, hupper⟩ := Bool.and_eq_true_iff.mp hcut
    have hempty : token = [] := by
      by_contra hne
      obtain ⟨tail, rfl, rfl⟩ := eq_append_of_joined hne hchain.symm
      rw [upperNext_joined] at hupper
      exact hfirst ((cutFrom_conjunction _ _ _).mpr (.inl ⟨hread, hupper⟩))
    subst hempty
    cases others with
    | nil => simp at hchain
    | cons next others =>
      have hrest : rest = joined (next :: others) := by
        simpa [conjunction] using hchain
      obtain ⟨hnext, hothers⟩ := (uncut_cons next others).mp hothers
      have hletter := upperNext_of_isToken (htokens next List.mem_cons_self)
      have hsame := ih next others hrest ((cutFrom_false _ _).not.mpr hnext) hothers
        (fun other hother => htokens other (List.mem_cons_of_mem _ hother))
        (fun _ hnil => absurd hnil hletter.1)
      rw [hsplit] at hsame
      obtain ⟨rfl, rfl⟩ := Prod.mk.inj hsame
      rfl
  | case2 begun rest hkept first following hsplit ih =>
    have hne : token ≠ [] := by
      rintro rfl
      cases others with
      | nil => simp at hchain
      | cons next others =>
        have hrest : rest = joined (next :: others) := by
          simpa [conjunction] using hchain
        have hletter := upperNext_of_isToken (htokens next List.mem_cons_self)
        apply hkept
        rw [hbegun nofun rfl, hrest, upperNext_joined, hletter.2]
        rfl
    obtain ⟨tail, rfl, hrest⟩ := eq_append_of_joined hne hchain.symm
    have htail : ¬CutFrom true tail (separator others) := by
      intro hcut
      exact hfirst ((cutFrom_conjunction _ _ _).mpr (.inr hcut))
    have hsame := ih tail others hrest htail hothers htokens (fun _ _ => rfl)
    rw [hsplit] at hsame
    obtain ⟨rfl, rfl⟩ := Prod.mk.inj hsame
    rfl
  | case3 begun c rest hother first following hsplit ih =>
    cases token with
    | nil =>
      cases others with
      | nil => simp at hchain
      | cons next others =>
        rw [joined_cons_cons] at hchain
        obtain ⟨rfl, rfl⟩ := List.cons.inj hchain
        exact (hother _ rfl rfl).elim
    | cons d tail =>
      rw [joined_cons] at hchain
      obtain ⟨rfl, hrest⟩ := List.cons.inj hchain
      have htail : ¬CutFrom true tail (separator others) := by
        intro hcut
        exact hfirst ((cutFrom_cons _ _ _ _).mpr (.inr hcut))
      have hsame := ih tail others (hrest.trans (joined_cons tail others).symm) htail hothers
        htokens (fun _ _ => rfl)
      rw [hsplit] at hsame
      obtain ⟨rfl, rfl⟩ := Prod.mk.inj hsame
      rfl
  | case4 begun =>
    rw [joined_cons] at hchain
    have hnil := List.append_eq_nil_iff.mp hchain.symm
    obtain ⟨rfl, hseparator⟩ := List.append_eq_nil_iff.mp hnil.1
    cases others with
    | nil => rfl
    | cons next others => cases hseparator

/-- The tokens of a chain are canonical, if each is made of the right letters. -/
theorem canonical_tokens {chain : List Char}
    (htokens : ∀ token ∈ tokens chain, isToken token = true) : Canonical (tokens chain) where
  nonempty := nofun
  isToken := htokens
  uncut := by
    obtain ⟨hfirst, hothers⟩ := uncut_splitChain false chain
    exact (uncut_cons _ _).mpr ⟨(cutFrom_false _ _).not.mp hfirst, hothers⟩

/-- Canonical tokens are those of their chain. -/
theorem tokens_joined {tokens : List (List Char)} (h : Canonical tokens) :
    Method.tokens (joined tokens) = tokens := by
  match tokens, h with
  | [], h => exact absurd rfl h.nonempty
  | token :: others, h =>
    obtain ⟨hfirst, hothers⟩ := (uncut_cons token others).mp h.uncut
    have hletter := upperNext_of_isToken (h.isToken token List.mem_cons_self)
    have hsplit := splitChain_joined false _ token others rfl
      ((cutFrom_false _ _).not.mpr hfirst) hothers
      (fun other hother => h.isToken other (List.mem_cons_of_mem _ hother))
      (fun _ hnil => absurd hnil hletter.1)
    unfold Method.tokens
    rw [hsplit]

/-- The chain of canonical tokens is not empty. -/
theorem joined_ne_nil {tokens : List (List Char)} (h : Canonical tokens) : joined tokens ≠ [] := by
  match tokens, h with
  | [], h => exact absurd rfl h.nonempty
  | token :: others, h =>
    have hletter := upperNext_of_isToken (h.isToken token List.mem_cons_self)
    rw [joined_cons, List.append_assoc]
    exact List.append_ne_nil_of_left_ne_nil hletter.1 _

/-! ## 4. Attributes and tokens -/

/-- The token that stands for an attribute: its first letter becomes an upper-case one. -/
def tokenOf (name : String) : List Char :=
  match name.toList with
  | [] => []
  | c :: rest => c.toUpper :: rest

theorem toUpper_toLower {c : Char} (h : c.isUpper = true) : c.toLower.toUpper = c := by
  have hupper : c.val ≥ 'A'.val ∧ c.val ≤ 'Z'.val := of_decide_eq_true h
  have hA : 65 ≤ c.val.toNat := UInt32.le_iff_toNat_le.mp hupper.1
  have hZ : c.val.toNat ≤ 90 := UInt32.le_iff_toNat_le.mp hupper.2
  have hlower : c.toLower.val = c.val + ('a'.val - 'A'.val) :=
    congrArg Char.val (dif_pos hupper)
  have hshift : ('a'.val - 'A'.val).toNat = 32 := by decide
  have hval : c.toLower.val.toNat = c.val.toNat + 32 := by
    rw [hlower, UInt32.toNat_add, hshift]
    omega
  have hcase : 'a'.val ≤ c.toLower.val ∧ c.toLower.val ≤ 'z'.val := by
    rw [UInt32.le_iff_toNat_le, UInt32.le_iff_toNat_le, hval]
    exact ⟨Nat.add_le_add_right hA 32, Nat.add_le_add_right hZ 32⟩
  have hback : c.toLower.toUpper.val = c.toLower.val + ('A'.val - 'a'.val) := by
    unfold Char.toUpper
    rw [dif_pos hcase]
  have hstep : ('A'.val - 'a'.val).toNat = 2 ^ 32 - 32 := by decide
  apply Char.ext
  apply UInt32.toNat_inj.mp
  rw [hback, UInt32.toNat_add, hval, hstep]
  omega

theorem tokenOf_attributeOf {token : List Char} (h : isToken token = true) :
    tokenOf (attributeOf token) = token := by
  cases token with
  | nil => cases h
  | cons c rest =>
    have hupper : c.isUpper = true := (Bool.and_eq_true_iff.mp h).1
    simp only [tokenOf, attributeOf, String.toList_ofList, toUpper_toLower hupper]

/-! ## 5. The word for the form -/

/-- A word of a form that a method begins with, and no longer word does. -/
structure Longest (word : List Char) (form : Form) (method : List Char) : Prop where
  mem : (word, form) ∈ words
  isPrefix : word <+: method
  le : ∀ other ∈ words, other.1 <+: method → other.1.length ≤ word.length

/-- A word does not begin a later one. -/
theorem pairwise_words : words.Pairwise fun word later => ¬word.1 <+: later.1 := by
  decide

/-- Of two words, the shorter begins the longer only if it is `find` and the longer is
`findBy`. -/
theorem eq_of_mem_words : ∀ word ∈ words, ∀ other ∈ words, word.1 <+: other.1 →
    other.1.length ≤ word.1.length ∨
      word.1 = "find".toList ∧ other.1 = "find".toList ++ "By".toList := by
  decide

/-- **The word that is taken off is the longest.** -/
theorem splitForm?_eq_some {method chain : List Char} {form : Form} :
    splitForm? method = some (form, chain) ↔
      ∃ word, Longest word form method ∧ method = word ++ chain := by
  unfold splitForm?
  rw [List.findSome?_eq_some_iff]
  constructor
  · rintro ⟨earlier, ⟨word, form'⟩, later, hwords, htaken, hearlier⟩
    have horder := pairwise_words
    rw [hwords, List.pairwise_append, List.pairwise_cons] at horder
    dsimp only at htaken
    split at htaken
    · rename_i hprefix
      obtain ⟨rest, rfl⟩ := List.isPrefixOf_iff_prefix.mp hprefix
      rw [List.drop_left, Option.some.injEq, Prod.mk.injEq] at htaken
      obtain ⟨rfl, rfl⟩ := htaken
      refine ⟨word, ⟨by simp [hwords], List.prefix_append _ _, ?_⟩, rfl⟩
      rintro ⟨other, form''⟩ hother hfits
      rw [hwords, List.mem_append, List.mem_cons] at hother
      rcases hother with hother | heq | hother
      · have hnone := hearlier _ hother
        dsimp only at hnone
        rw [if_pos (List.isPrefixOf_iff_prefix.mpr hfits)] at hnone
        cases hnone
      · rw [(Prod.mk.inj heq).1]
      · rcases List.prefix_or_prefix_of_prefix (List.prefix_append word rest) hfits with h | h
        · exact (horder.2.1.1 _ hother h).elim
        · exact h.length_le
    · cases htaken
  · rintro ⟨word, hlongest, rfl⟩
    obtain ⟨earlier, later, hwords⟩ := List.append_of_mem hlongest.mem
    have horder := pairwise_words
    rw [hwords, List.pairwise_append] at horder
    refine ⟨earlier, (word, form), later, hwords, ?_, ?_⟩
    · dsimp only
      rw [if_pos (List.isPrefixOf_iff_prefix.mpr hlongest.isPrefix), List.drop_left]
    · rintro ⟨other, form'⟩ hother
      have hnot := horder.2.2 _ hother (word, form) List.mem_cons_self
      have hmem : (other, form') ∈ words := hwords ▸ List.mem_append_left _ hother
      apply if_neg
      intro hfits
      rw [List.isPrefixOf_iff_prefix] at hfits
      have hle := hlongest.le _ hmem hfits
      exact hnot (List.prefix_of_prefix_length_le hfits hlongest.isPrefix hle)

/-- Every word is the longest that begins its methods, except for `find` before `By`. -/
theorem longest_append {word chain : List Char} {form : Form} (hmem : (word, form) ∈ words)
    (hfind : word = "find".toList → ¬"By".toList <+: chain) :
    Longest word form (word ++ chain) where
  mem := hmem
  isPrefix := List.prefix_append _ _
  le other hother hfits := by
    rcases List.prefix_or_prefix_of_prefix (List.prefix_append word chain) hfits with h | h
    · rcases eq_of_mem_words _ hmem other hother h with hle | ⟨hword, heq⟩
      · exact hle
      · dsimp only at hword
        rw [heq, hword, List.prefix_append_right_inj] at hfits
        exact (hfind hword hfits).elim
    · exact h.length_le

/-! ## 6. Methods -/

/-- What the parser accepts: a word, and a chain of which every token is made of the right
letters. -/
theorem parse_eq_ok {method : String} {parsed : Method} :
    parse method = .ok parsed ↔
      ∃ chain, splitForm? method.toList = some (parsed.form, chain) ∧ chain ≠ [] ∧
        (∀ token ∈ tokens chain, isToken token = true) ∧
        parsed.attributes = (tokens chain).map attributeOf := by
  unfold parse parseChars
  rcases splitForm? method.toList with _ | ⟨form, _ | ⟨c, rest⟩⟩
  · simp [Except.mapError]
  · simp [Except.mapError]
  · dsimp only
    cases hbad : (tokens (c :: rest)).find? fun token => !isToken token with
    | some token =>
      have hmem := List.mem_of_find?_eq_some hbad
      have htoken : isToken token = false := by simpa using List.find?_some hbad
      refine ⟨nofun, ?_⟩
      rintro ⟨chain, hchain, -, htokens, -⟩
      obtain ⟨rfl, rfl⟩ := Prod.mk.inj (Option.some.inj hchain)
      rw [htokens token hmem] at htoken
      cases htoken
    | none =>
      have hgood : ∀ token ∈ tokens (c :: rest), isToken token = true := by
        simpa using hbad
      constructor
      · rintro ⟨⟩
        exact ⟨c :: rest, rfl, nofun, hgood, rfl⟩
      · rintro ⟨chain, hchain, -, -, hattributes⟩
        obtain ⟨hform, rfl⟩ := Prod.mk.inj (Option.some.inj hchain)
        obtain ⟨form', attributes⟩ := parsed
        dsimp only at hform hattributes
        rw [hform, hattributes]
        rfl

/-- **The parser and the grammar of method names invert each other.**  What is parsed from a name
is a form and attributes whose tokens are canonical and give the name when they are joined, after
the longest word that begins it.  And a name made of a word and of canonical tokens is parsed to
the form of the word and the attributes of the tokens, unless the word is `find` and the chain
begins with `By`, so that the word would be `findBy`. -/
theorem parse_grammar :
    (∀ (method : String) (parsed : Method), parse method = .ok parsed →
      Canonical (parsed.attributes.map tokenOf) ∧
      ∃ word, Longest word parsed.form method.toList ∧
        method.toList = word ++ joined (parsed.attributes.map tokenOf)) ∧
    (∀ (word : List Char) (form : Form) (tokens : List (List Char)), (word, form) ∈ words →
      Canonical tokens → (word = "find".toList → ¬"By".toList <+: joined tokens) →
      parse (String.ofList (word ++ joined tokens)) = .ok ⟨form, tokens.map attributeOf⟩) := by
  constructor
  · intro method parsed h
    obtain ⟨chain, hsplit, -, htokens, hattributes⟩ := parse_eq_ok.mp h
    have hsame : parsed.attributes.map tokenOf = tokens chain := by
      rw [hattributes, List.map_map]
      refine (List.map_congr_left ?_).trans (List.map_id _)
      intro token htoken
      exact tokenOf_attributeOf (htokens token htoken)
    have hjoined : joined (tokens chain) = chain := joined_splitChain false chain
    rw [hsame, hjoined]
    exact ⟨canonical_tokens htokens, splitForm?_eq_some.mp hsplit⟩
  · intro word form tokens hmem hcanonical hfind
    rw [parse_eq_ok]
    refine ⟨joined tokens, ?_, joined_ne_nil hcanonical, ?_, ?_⟩
    · rw [String.toList_ofList]
      exact splitForm?_eq_some.mpr ⟨word, longest_append hmem hfind, rfl⟩
    · rw [tokens_joined hcanonical]
      exact hcanonical.isToken
    · rw [tokens_joined hcanonical]

/-- A conjunction at the head of a token belongs to it: the tokens of this name are `X` and `AndY`,
also after the shorter word. -/
theorem parse_grammar_repeated :
    Canonical ["X".toList, "AndY".toList] ∧
      parse (String.ofList ("find".toList ++ joined ["X".toList, "AndY".toList])) =
        .ok ⟨.selectFiltered, ["x", "andY"]⟩ := by
  have hparse : parse "findByXAndAndY" = .ok ⟨.selectFiltered, ["x", "andY"]⟩ := by
    rfl
  have hcanonical : Canonical ["X".toList, "AndY".toList] :=
    (parse_grammar.1 _ _ hparse).1
  exact ⟨hcanonical, parse_grammar.2 "find".toList .selectFiltered _ (by decide) hcanonical
    (by decide)⟩

end EntityStore.Query.Method
