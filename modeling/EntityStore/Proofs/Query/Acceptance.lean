import EntityStore.Proofs.Query.Grammar
/-!
# Which method names are accepted

The parser looks at one token after another, but which names it accepts can be told without
splitting them: what follows the longest word has to begin with an upper-case letter and to
consist of letters and digits.  The reason is that a chain is only ever cut before an upper-case
letter, and that a cut takes nothing but letters away.

* Every token of a chain begins with an upper-case letter, except possibly the first one, which
  begins as the chain does (`upperNext_of_mem_splitChain`, `upperNext_splitChain`).
* The characters of a chain are those of its tokens and of conjunctions (`forall_mem_joined`).

So the tokens are well formed exactly if the chain is (`isToken_tokens_iff`).  Main statement:
`parse_verdict`, which also says what is reported of every other name.
-/

namespace EntityStore.Query.Method

/-! ## 1. The letters that tokens begin with -/

/-- The first token begins as its chain does. -/
theorem upperNext_splitChain (chain : List Char) :
    upperNext (splitChain false chain).1 = upperNext chain := by
  fun_cases splitChain false chain with
  | case1 rest h => cases (Bool.and_eq_true_iff.mp h).1
  | case2 rest => rfl
  | case3 c rest => rfl
  | case4 => rfl

/-- A chain is cut before upper-case letters only. -/
theorem upperNext_of_mem_splitChain (begun : Bool) (chain : List Char) :
    ∀ token ∈ (splitChain begun chain).2, upperNext token = true := by
  fun_induction splitChain begun chain with
  | case1 begun rest hcut token others hsplit ih =>
    rw [hsplit] at ih
    intro other hother
    rcases List.mem_cons.mp hother with rfl | hother
    · have hfirst := upperNext_splitChain rest
      rw [hsplit] at hfirst
      exact hfirst.trans (Bool.and_eq_true_iff.mp hcut).2
    · exact ih other hother
  | case2 begun rest _ token others hsplit ih =>
    rw [hsplit] at ih
    exact ih
  | case3 begun c rest _ token others hsplit ih =>
    rw [hsplit] at ih
    exact ih
  | case4 begun => simp

/-! ## 2. The characters of a chain -/

/-- What holds of the letters of a conjunction holds of all characters of a chain exactly if it
holds of those of its tokens. -/
theorem forall_mem_joined {P : Char → Prop} (hand : ∀ c ∈ conjunction, P c)
    (tokens : List (List Char)) :
    (∀ c ∈ joined tokens, P c) ↔ ∀ token ∈ tokens, ∀ c ∈ token, P c := by
  induction tokens with
  | nil => simp [joined]
  | cons token others ih =>
    have hseparator : ∀ c ∈ separator others, P c := by
      cases others with
      | nil => simp [separator]
      | cons next rest => exact hand
    rw [joined_cons, List.forall_mem_append, List.forall_mem_append, ih, List.forall_mem_cons]
    exact ⟨fun h => ⟨h.1.1, h.2⟩, fun h => ⟨⟨h.1, hseparator⟩, h.2⟩⟩

theorem isAlphanum_conjunction : ∀ c ∈ conjunction, c.isAlphanum = true :=
  List.all_eq_true.mp rfl

/-- A token is well formed if it begins with an upper-case letter and holds only letters and
digits. -/
theorem isToken_iff (token : List Char) :
    isToken token = true ↔ upperNext token = true ∧ ∀ c ∈ token, c.isAlphanum = true := by
  cases token with
  | nil => simp [isToken, upperNext]
  | cons c rest =>
    have hletter : c.isUpper = true → c.isAlphanum = true := by
      intro hupper
      simp [Char.isAlphanum, Char.isAlpha, hupper]
    simp only [isToken, upperNext, Bool.and_eq_true, List.all_eq_true, List.forall_mem_cons]
    exact ⟨fun h => ⟨h.1, hletter h.1, h.2⟩, fun h => ⟨h.1, h.2.2⟩⟩

/-- **The tokens are well formed exactly if the chain is.** -/
theorem isToken_tokens_iff (chain : List Char) :
    (∀ token ∈ tokens chain, isToken token = true) ↔
      upperNext chain = true ∧ ∀ c ∈ chain, c.isAlphanum = true := by
  have hchars : (∀ c ∈ chain, c.isAlphanum = true) ↔
      ∀ token ∈ tokens chain, ∀ c ∈ token, c.isAlphanum = true := by
    have hjoined : joined (tokens chain) = chain := joined_splitChain false chain
    conv_lhs => rw [← hjoined]
    exact forall_mem_joined isAlphanum_conjunction (tokens chain)
  rw [hchars, ← upperNext_splitChain chain]
  constructor
  · intro h
    refine ⟨((isToken_iff _).mp (h _ List.mem_cons_self)).1, ?_⟩
    intro token htoken
    exact ((isToken_iff token).mp (h token htoken)).2
  · rintro ⟨hfirst, hall⟩ token htoken
    refine (isToken_iff token).mpr ⟨?_, hall token htoken⟩
    rcases List.mem_cons.mp htoken with rfl | hother
    · exact hfirst
    · exact upperNext_of_mem_splitChain false chain token hother

/-! ## 3. The token that is to blame -/

/-- What is wrong with a token in its place: it holds a character that is neither a letter nor a
digit, or it is the first one and does not begin with an upper-case letter. -/
def Faulty (place : Nat) (token : List Char) : Prop :=
  (∃ c ∈ token, c.isAlphanum = false) ∨ place = 0 ∧ upperNext token = false

/-- The first token with which something is wrong. -/
def FirstFaulty (tokens : List (List Char)) (token : List Char) : Prop :=
  ∃ place, tokens[place]? = some token ∧ Faulty place token ∧
    ∀ earlier other, earlier < place → tokens[earlier]? = some other → ¬ Faulty earlier other

/-- In its place a token of a chain is faulty exactly if it is not well formed. -/
theorem faulty_iff {chain token : List Char} {place : Nat}
    (h : (tokens chain)[place]? = some token) : Faulty place token ↔ isToken token = false := by
  have hupper : place ≠ 0 → upperNext token = true := by
    intro hplace
    obtain ⟨before, rfl⟩ := Nat.exists_eq_succ_of_ne_zero hplace
    exact upperNext_of_mem_splitChain false chain token (List.mem_of_getElem? h)
  rw [← Bool.not_eq_true, isToken_iff, not_and_or, or_comm]
  refine or_congr (by simp) ?_
  rw [Bool.not_eq_true]
  constructor
  · exact And.right
  · intro hlower
    refine ⟨?_, hlower⟩
    by_contra hplace
    rw [hupper hplace] at hlower
    cases hlower

/-- The parser finds the first token with which something is wrong. -/
theorem find?_eq_some_iff_firstFaulty (chain token : List Char) :
    (tokens chain).find? (fun token => !isToken token) = some token ↔
      FirstFaulty (tokens chain) token := by
  rw [List.find?_eq_some_iff_getElem]
  constructor
  · rintro ⟨hbad, place, hplace, htoken, hearlier⟩
    have hget : (tokens chain)[place]? = some token := by
      rw [List.getElem?_eq_getElem hplace, htoken]
    refine ⟨place, hget, (faulty_iff hget).mpr (by simpa using hbad), ?_⟩
    intro earlier other hlt hother
    obtain ⟨hbound, rfl⟩ := List.getElem?_eq_some_iff.mp hother
    rw [faulty_iff hother]
    simpa using hearlier earlier hlt
  · rintro ⟨place, hget, hfaulty, hearlier⟩
    obtain ⟨hplace, htoken⟩ := List.getElem?_eq_some_iff.mp hget
    refine ⟨by simpa using (faulty_iff hget).mp hfaulty, place, hplace, htoken, ?_⟩
    intro earlier hlt
    have hother := List.getElem?_eq_getElem (hlt.trans hplace)
    have hgood := hearlier earlier _ hlt hother
    rw [faulty_iff hother] at hgood
    simpa using hgood

/-! ## 4. The verdict on a method name -/

/-- What follows the longest word that begins a method name. -/
def Remainder (method chain : List Char) : Prop :=
  ∃ word form, Longest word form method ∧ method = word ++ chain

theorem remainder_iff {method chain : List Char} :
    Remainder method chain ↔ ∃ form, splitForm? method = some (form, chain) := by
  simp only [splitForm?_eq_some]
  exact exists_comm

theorem splitForm?_eq_none {method : List Char} :
    splitForm? method = none ↔ ∀ word ∈ words, ¬ word.1 <+: method := by
  simp [splitForm?, List.findSome?_eq_none_iff]

/-- The parser goes one of four ways. -/
theorem parse_cases (method : String) :
    (splitForm? method.toList = none ∧
      parse method = .error (.derivation method .missingPrefix)) ∨
    (∃ form, splitForm? method.toList = some (form, []) ∧
      parse method = .error (.derivation method .emptyAttributeChain)) ∨
    (∃ form chain token, splitForm? method.toList = some (form, chain) ∧ chain ≠ [] ∧
      FirstFaulty (tokens chain) token ∧
      parse method = .error (.derivation method (.malformedAttribute (String.ofList token)))) ∨
    (∃ form chain, splitForm? method.toList = some (form, chain) ∧ chain ≠ [] ∧
      (∀ token ∈ tokens chain, isToken token = true) ∧ ∃ parsed, parse method = .ok parsed) := by
  unfold parse parseChars
  rcases splitForm? method.toList with _ | ⟨form, _ | ⟨c, rest⟩⟩
  · exact .inl ⟨rfl, rfl⟩
  · exact .inr (.inl ⟨form, rfl, rfl⟩)
  · dsimp only
    cases hbad : (tokens (c :: rest)).find? fun token => !isToken token with
    | some token =>
      have hfirst := (find?_eq_some_iff_firstFaulty _ _).mp hbad
      exact .inr (.inr (.inl ⟨form, _, token, rfl, nofun, hfirst, rfl⟩))
    | none => exact .inr (.inr (.inr ⟨form, _, rfl, nofun, by simpa using hbad, _, rfl⟩))

/-- At most one token is the first faulty one. -/
theorem FirstFaulty.unique {chain token other : List Char} (h : FirstFaulty (tokens chain) token)
    (h' : FirstFaulty (tokens chain) other) : token = other := by
  rw [← find?_eq_some_iff_firstFaulty] at h h'
  exact Option.some.inj (h.symm.trans h')

theorem FirstFaulty.not_isToken {chain token : List Char} (h : FirstFaulty (tokens chain) token) :
    token ∈ tokens chain ∧ isToken token = false := by
  rw [← find?_eq_some_iff_firstFaulty] at h
  exact ⟨List.mem_of_find?_eq_some h, by simpa using List.find?_some h⟩

theorem parse_missingPrefix_iff (method : String) :
    parse method = .error (.derivation method .missingPrefix) ↔
      ∀ word ∈ words, ¬ word.1 <+: method.toList := by
  rw [← splitForm?_eq_none]
  rcases parse_cases method with ⟨hsplit, hparse⟩ | ⟨_, hsplit, hparse⟩ |
    ⟨_, _, _, hsplit, -, -, hparse⟩ | ⟨_, _, hsplit, -, -, _, hparse⟩ <;>
    simp [hsplit, hparse]

theorem parse_emptyAttributeChain_iff (method : String) :
    parse method = .error (.derivation method .emptyAttributeChain) ↔
      Remainder method.toList [] := by
  rw [remainder_iff]
  rcases parse_cases method with ⟨hsplit, hparse⟩ | ⟨_, hsplit, hparse⟩ |
    ⟨_, _, _, hsplit, hchain, -, hparse⟩ | ⟨_, _, hsplit, hchain, -, _, hparse⟩
  · simp [hsplit, hparse]
  · simp [hsplit, hparse]
  · simp [hsplit, hparse, hchain]
  · simp [hsplit, hparse, hchain]

/-- **Whether a name is accepted can be told without splitting it.** -/
theorem exists_parse_iff (method : String) :
    (∃ parsed, parse method = .ok parsed) ↔
      ∃ chain, Remainder method.toList chain ∧ chain ≠ [] ∧ upperNext chain = true ∧
        ∀ c ∈ chain, c.isAlphanum = true := by
  constructor
  · rintro ⟨parsed, hparse⟩
    obtain ⟨chain, hsplit, hchain, htokens, -⟩ := parse_eq_ok.mp hparse
    exact ⟨chain, remainder_iff.mpr ⟨_, hsplit⟩, hchain, (isToken_tokens_iff chain).mp htokens⟩
  · rintro ⟨chain, hremainder, hchain, hletters⟩
    obtain ⟨form, hsplit⟩ := remainder_iff.mp hremainder
    have htokens := (isToken_tokens_iff chain).mpr hletters
    exact ⟨⟨form, (tokens chain).map attributeOf⟩,
      parse_eq_ok.mpr ⟨chain, hsplit, hchain, htokens, rfl⟩⟩

theorem parse_malformedAttribute_iff (method token : String) :
    parse method = .error (.derivation method (.malformedAttribute token)) ↔
      ∃ chain, Remainder method.toList chain ∧ chain ≠ [] ∧
        FirstFaulty (tokens chain) token.toList := by
  simp only [remainder_iff]
  rcases parse_cases method with ⟨hsplit, hparse⟩ | ⟨_, hsplit, hparse⟩ |
    ⟨form, chain, first, hsplit, hchain, hfirst, hparse⟩ |
    ⟨form, chain, hsplit, hchain, hall, _, hparse⟩
  · simp [hsplit, hparse]
  · simp [hsplit, hparse]
  · rw [hparse]
    constructor
    · intro htoken
      obtain rfl : String.ofList first = token := by simpa using htoken
      exact ⟨chain, ⟨form, hsplit⟩, hchain, by rwa [String.toList_ofList]⟩
    · rintro ⟨chain', ⟨form', hsplit'⟩, -, hfirst'⟩
      obtain ⟨-, rfl⟩ := Prod.mk.inj (Option.some.inj (hsplit.symm.trans hsplit'))
      rw [hfirst.unique hfirst', String.ofList_toList]
  · rw [hparse]
    constructor
    · nofun
    · rintro ⟨chain', ⟨form', hsplit'⟩, -, hfirst'⟩
      obtain ⟨-, rfl⟩ := Prod.mk.inj (Option.some.inj (hsplit.symm.trans hsplit'))
      obtain ⟨hmem, hbad⟩ := hfirst'.not_isToken
      rw [hall _ hmem] at hbad
      cases hbad

/-- What the parser says of a method name: which names it accepts, and what it reports of each
other. -/
structure Verdict (method : String) : Prop where
  missing : parse method = .error (.derivation method .missingPrefix) ↔
    ∀ word ∈ words, ¬ word.1 <+: method.toList
  empty : parse method = .error (.derivation method .emptyAttributeChain) ↔
    Remainder method.toList []
  accepted : (∃ parsed, parse method = .ok parsed) ↔
    ∃ chain, Remainder method.toList chain ∧ chain ≠ [] ∧ upperNext chain = true ∧
      ∀ c ∈ chain, c.isAlphanum = true
  malformed : ∀ token, parse method = .error (.derivation method (.malformedAttribute token)) ↔
    ∃ chain, Remainder method.toList chain ∧ chain ≠ [] ∧
      FirstFaulty (tokens chain) token.toList
  /-- There are no other faults, and each names the method. -/
  named : ∀ fault, parse method = .error fault →
    ∃ reason, fault = .derivation method reason ∧
      (reason = .missingPrefix ∨ reason = .emptyAttributeChain ∨
        ∃ token, reason = .malformedAttribute token)

/-- **The parser accepts exactly its grammar and blames the right cause.**  Splitting a chain never
spoils a name whose chain begins with an upper-case letter and holds only letters and digits, nor
does it save any other. -/
theorem parse_verdict (method : String) : Verdict method where
  missing := parse_missingPrefix_iff method
  empty := parse_emptyAttributeChain_iff method
  accepted := exists_parse_iff method
  malformed := parse_malformedAttribute_iff method
  named := by
    intro fault hfault
    rcases parse_cases method with ⟨-, hparse⟩ | ⟨_, -, hparse⟩ |
      ⟨_, _, token, -, -, -, hparse⟩ | ⟨_, _, -, -, -, _, hparse⟩
    · rw [hparse] at hfault
      cases hfault
      exact ⟨_, rfl, .inl rfl⟩
    · rw [hparse] at hfault
      cases hfault
      exact ⟨_, rfl, .inr (.inl rfl)⟩
    · rw [hparse] at hfault
      cases hfault
      exact ⟨_, rfl, .inr (.inr ⟨_, rfl⟩)⟩
    · rw [hparse] at hfault
      cases hfault

/-- The first token is in order here, the second is to blame. -/
example : parse "findByNameAndBirth_YearAndX" =
    .error (.derivation "findByNameAndBirth_YearAndX" (.malformedAttribute "Birth_Year")) := by
  rfl

end EntityStore.Query.Method
