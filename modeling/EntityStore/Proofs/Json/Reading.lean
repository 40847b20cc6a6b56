import EntityStore.Unit.Json
import EntityStore.Proofs.Text.Hex
/-!
# Reading what was written

A text of a value is one that the writers of this library produce: `Spells` relates the two, with
one rule for each kind of value.  The reader gives back the value of each such text and stops where
the text ends (`Spells.reads`), so a whole input is read as its value (`read?_of_spells`).

What follows a number decides where it ends.  Therefore reading is stated in front of everything
that may stand after a value (`Follows`).
-/

namespace EntityStore.Json

/-! ## 1. Numbers -/

/-- What may stand after a value: nothing, a comma, or the end of an object. -/
inductive Follows : List Char → Prop
  | nothing : Follows []
  | comma (rest : List Char) : Follows (',' :: rest)
  | brace (rest : List Char) : Follows ('\x7d' :: rest)

/-- A whole number in base ten. -/
def integer : Int → List Char
  | .ofNat n => natural n
  | .negSucc n => '-' :: natural (n + 1)

variable {rest : List Char}

theorem isDigit_of_mem_natural {n : Nat} {c : Char} (h : c ∈ natural n) : c.isDigit = true :=
  Nat.isDigit_of_mem_toDigits (by omega) (by omega) h

/-- A number has digits. -/
theorem natural_begins (n : Nat) : ∃ c digits, natural n = c :: digits ∧ c.isDigit = true := by
  obtain ⟨c, digits, hdigits⟩ := List.exists_cons_of_ne_nil (Nat.toDigits_ne_nil (n := n) (b := 10))
  exact ⟨c, digits, hdigits, isDigit_of_mem_natural (n := n) (by simp [natural, hdigits])⟩

/-- Only zero begins with the digit zero. -/
theorem natural_cases (n : Nat) :
    natural n = ['0'] ∨ ∃ c digits, natural n = c :: digits ∧ c ≠ '0' := by
  induction n using Nat.strongRecOn with
  | ind n ih =>
    rcases Nat.lt_or_ge n 10 with hlt | hge
    · rw [natural, Nat.toDigits_of_lt_base hlt]
      rcases Nat.eq_zero_or_pos n with rfl | hpos
      · exact .inl rfl
      · refine .inr ⟨n.digitChar, [], rfl, ?_⟩
        interval_cases n <;> decide
    · rw [natural, Nat.toDigits_of_base_le (by omega) hge]
      rcases ih (n / 10) (by omega) with hzero | ⟨c, digits, hdigits, hc⟩
      · -- A quotient of zero would have been a number of one digit.
        have hvalue := congrArg (Nat.ofDigitChars 10 · 0) hzero
        simp only [natural, Nat.ofDigitChars_toDigits (show 1 < 10 by omega) (Nat.le_refl 10)]
          at hvalue
        exact absurd hvalue (by simp [Nat.ofDigitChars]; omega)
      · refine .inr ⟨c, digits ++ [(n % 10).digitChar], ?_, hc⟩
        rw [← List.cons_append, ← hdigits, natural]

theorem digits?_natural (n : Nat) (h : Follows rest) :
    digits? (natural n ++ rest) = some (natural n, rest) := by
  have hdigits : ∀ c ∈ natural n, c.isDigit = true := fun c => isDigit_of_mem_natural
  have htake : rest.takeWhile Char.isDigit = [] := by cases h <;> rfl
  have hdrop : rest.dropWhile Char.isDigit = rest := by cases h <;> rfl
  have hne : natural n ≠ [] := Nat.toDigits_ne_nil
  rw [digits?, List.takeWhile_append_of_pos hdigits, List.dropWhile_append_of_pos hdigits, htake,
    hdrop, List.append_nil, if_neg (by simpa using hne)]

theorem whole?_natural (n : Nat) (h : Follows rest) :
    whole? (natural n ++ rest) = some (natural n, rest) := by
  rcases natural_cases n with hzero | ⟨c, digits, hdigits, hc⟩
  · rw [hzero]
    rfl
  · unfold whole?
    split
    · rename_i heq
      rw [hdigits] at heq
      exact absurd (List.cons.inj heq).1 hc
    · exact digits?_natural n h

theorem unsigned?_natural (n : Nat) (h : Follows rest) :
    unsigned? (natural n ++ rest) = some (natural n, rest) := by
  have hfraction : fraction? rest = some ([], rest) := by cases h <;> rfl
  have hexponent : exponent? rest = some ([], rest) := by cases h <;> rfl
  simp [unsigned?, whole?_natural n h, hfraction, hexponent]

theorem number?_integer (n : Int) (h : Follows rest) :
    number? (integer n ++ rest) = some (.number (integer n), rest) := by
  cases n with
  | negSucc n => simp [integer, number?, unsigned?_natural (n + 1) h]
  | ofNat n =>
    unfold number?
    split
    · -- No digit is a sign.
      rename_i rest' heq
      obtain ⟨c, digits, hdigits, hc⟩ := natural_begins n
      simp only [integer, hdigits, List.cons_append, List.cons.injEq] at heq
      rw [heq.1] at hc
      cases hc
    · simp [integer, unsigned?_natural n h]

/-! ## 2. Texts -/

/-- A piece stands for a character. -/
inductive StandsFor : Piece → Char → Prop
  | char (c : Char) : StandsFor (.char c) c
  | unit {c : Char} : c.toNat < 32 → StandsFor (.unit c.toNat) c

/-- A character is written so that it is read as a piece that stands for it. -/
theorem pieces?_escape (c : Char) : ∃ piece, StandsFor piece c ∧ ∀ input,
    pieces? (escape c ++ input) =
      (pieces? input).map fun (pieces, rest) => (piece :: pieces, rest) := by
  unfold escape
  split
  · subst c
    exact ⟨_, .char '"', fun input => by simp [pieces?, escaped?]⟩
  split
  · subst c
    exact ⟨_, .char '\\', fun input => by simp [pieces?, escaped?]⟩
  split
  · subst c
    exact ⟨_, .char '\n', fun input => by simp [pieces?, escaped?]⟩
  split
  · subst c
    exact ⟨_, .char '\r', fun input => by simp [pieces?, escaped?]⟩
  split
  · subst c
    exact ⟨_, .char '\t', fun input => by simp [pieces?, escaped?]⟩
  split
  · rename_i hc
    refine ⟨_, .char c, fun input => ?_⟩
    rw [← Char.ofNat_toNat c, hc]
    simp [pieces?, escaped?]
  split
  · rename_i hc
    refine ⟨_, .char c, fun input => ?_⟩
    rw [← Char.ofNat_toNat c, hc]
    simp [pieces?, escaped?]
  split
  · rename_i hc
    refine ⟨_, .unit hc, fun input => ?_⟩
    have hhalves : c.toNat / 16 * 16 + c.toNat % 16 = c.toNat := by omega
    have hzero : hexValue? '0' = some 0 := rfl
    simp [pieces?, hex4?, hzero, hexValue?_hexDigit (show c.toNat / 16 < 16 by omega),
      hexValue?_hexDigit (show c.toNat % 16 < 16 by omega), hhalves]
  · rename_i hquote hslash _ _ _ _ _ hlarge
    refine ⟨_, .char c, fun input => ?_⟩
    rw [List.singleton_append, pieces?.eq_def]
    split <;> simp_all

/-- A unit that is no half of a pair stands for itself, whatever follows. -/
theorem join?_unit {n : Nat} (hn : n < 32) (pieces : List Piece) :
    join? (.unit n :: pieces) = (join? pieces).map (Char.ofNat n :: ·) := by
  have hhigh : isHigh n = false := by simp [isHigh]; omega
  have hlow : isLow n = false := by simp [isLow]; omega
  cases pieces with
  | nil => simp [join?, hhigh, hlow]
  | cons next pieces => cases next <;> simp [join?, hhigh, hlow]

/-- Pieces that stand for characters are joined to these. -/
theorem join?_of_standsFor {pieces : List Piece} {text : List Char}
    (h : List.Forall₂ StandsFor pieces text) : join? pieces = some text := by
  induction h with
  | nil => rfl
  | cons hpiece _ ih =>
    cases hpiece with
    | char c => rw [join?, ih, Option.map_some]
    | unit hc => rw [join?_unit hc, ih, Option.map_some, Char.ofNat_toNat]

theorem text?_escaped (text rest : List Char) :
    text? (text.flatMap escape ++ '"' :: rest) = some (some (String.ofList text), rest) := by
  have hpieces : ∃ pieces, List.Forall₂ StandsFor pieces text ∧
      pieces? (text.flatMap escape ++ '"' :: rest) = some (pieces, rest) := by
    induction text with
    | nil => exact ⟨[], .nil, by simp [pieces?]⟩
    | cons c text ih =>
      obtain ⟨pieces, hstand, hread⟩ := ih
      obtain ⟨piece, hpiece, hescape⟩ := pieces?_escape c
      refine ⟨piece :: pieces, .cons hpiece hstand, ?_⟩
      rw [List.flatMap_cons, List.append_assoc, hescape, hread]
      rfl
  obtain ⟨pieces, hstand, hread⟩ := hpieces
  simp [text?, hread, join?_of_standsFor hstand]

/-! ## 3. Values -/

/-- A member of an object: its key, how its value is written, and the value. -/
structure Member where
  key : String
  text : List Char
  value : Json

/-- How a member is written. -/
def Member.written (m : Member) : List Char :=
  member m.key m.text

/-- How the object of some members is written. -/
def objectText (members : List Member) : List Char :=
  braced (members.map Member.written)

/-- The object of some members. -/
def objectValue (members : List Member) : Json :=
  .object (members.map fun m => (some m.key, m.value))

/-- A text of a value. -/
inductive Spells : List Char → Json → Prop
  | null : Spells ['n', 'u', 'l', 'l'] .null
  | boolean (b : Bool) : Spells (boolean b) (.bool b)
  | integer (n : Int) : Spells (integer n) (.number (integer n))
  | text (s : String) : Spells (quote s.toList) (.text s)
  | object {members : List Member} : (∀ m ∈ members, Spells m.text m.value) →
      Spells (objectText members) (objectValue members)

/-- The reader gives back the value of a text and leaves what follows it. -/
def Reads (text : List Char) (value : Json) : Prop :=
  ∀ fuel rest, text.length < fuel → Follows rest → value? fuel (text ++ rest) = some (value, rest)

theorem length_lt_member (key : String) (text : List Char) :
    text.length < (member key text).length := by
  simp [member, quote]
  omega

theorem member_append (key : String) (text next : List Char) :
    member key text ++ next =
      '"' :: (key.toList.flatMap escape ++ '"' :: ':' :: (text ++ next)) := by
  simp [member, quote]

section Member

variable {fuel : Nat} {key : String} {text : List Char} {value : Json}

theorem members?_last
    (hvalue : value? fuel (text ++ '\x7d' :: rest) = some (value, '\x7d' :: rest)) :
    members? (fuel + 1) (member key text ++ '\x7d' :: rest) = some ([(some key, value)], rest) := by
  simp [member_append, members?, skipGap, isGap, text?_escaped, hvalue]

theorem members?_cons {members : List (Option String × Json)} {last : List Char}
    (hvalue : value? fuel (text ++ ',' :: rest) = some (value, ',' :: rest))
    (hrest : members? fuel rest = some (members, last)) :
    members? (fuel + 1) (member key text ++ ',' :: rest) =
      some ((some key, value) :: members, last) := by
  simp [member_append, members?, skipGap, isGap, text?_escaped, hvalue, hrest]

end Member

/-- Members begin with the quote of the first key. -/
theorem separated_begins (m : Member) (members : List Member) :
    ∃ tail, separated ((m :: members).map Member.written) = '"' :: tail := by
  cases members <;> exact ⟨_, rfl⟩

/-- Members are read one after another, up to the closing brace. -/
theorem members?_separated {members : List Member} (hne : members ≠ [])
    (hreads : ∀ m ∈ members, Reads m.text m.value) {fuel : Nat} (rest : List Char)
    (hfuel : (separated (members.map Member.written)).length < fuel) :
    members? fuel (separated (members.map Member.written) ++ '\x7d' :: rest) =
      some (members.map fun m => (some m.key, m.value), rest) := by
  induction members generalizing fuel with
  | nil => exact absurd rfl hne
  | cons m members ih =>
    obtain ⟨fuel, rfl⟩ : ∃ before, fuel = before + 1 := ⟨fuel - 1, by omega⟩
    have hm := hreads m List.mem_cons_self
    have hlength := length_lt_member m.key m.text
    cases members with
    | nil =>
      simp only [List.map_cons, List.map_nil, separated, Member.written] at hfuel ⊢
      exact members?_last (hm fuel _ (by omega) (.brace rest))
    | cons next members =>
      simp only [List.map_cons, separated, Member.written, List.length_append, List.length_cons]
        at hfuel ⊢
      have hrest := ih (by simp) (fun x hx => hreads x (List.mem_cons_of_mem _ hx))
        (show _ < fuel by simp only [List.map_cons, Member.written]; omega)
      simp only [List.map_cons, Member.written] at hrest
      rw [List.append_assoc, List.cons_append]
      exact members?_cons (hm fuel _ (by omega) (.comma _)) hrest

theorem isDigit_or_sign (n : Int) :
    ∃ c digits, integer n = c :: digits ∧ (c.isDigit = true ∨ c = '-') := by
  cases n with
  | negSucc n => exact ⟨'-', _, rfl, .inr rfl⟩
  | ofNat n =>
    obtain ⟨c, digits, hdigits, hc⟩ := natural_begins n
    exact ⟨c, digits, hdigits, .inl hc⟩

theorem reads_integer (n : Int) : Reads (integer n) (.number (integer n)) := by
  intro fuel rest hfuel hrest
  obtain ⟨fuel, rfl⟩ : ∃ before, fuel = before + 1 := ⟨fuel - 1, by omega⟩
  have hnumber := number?_integer n hrest
  obtain ⟨c, digits, hdigits, hc⟩ := isDigit_or_sign n
  rw [hdigits, List.cons_append] at hnumber ⊢
  -- A number begins like no other value, and not with a blank.
  have hother : ∀ d ∈ [' ', '\t', '\n', '\r', '"', '[', '\x7b', 't', 'f', 'n'], c ≠ d := by
    rintro d hd rfl
    have hnone : ([' ', '\t', '\n', '\r', '"', '[', '\x7b', 't', 'f', 'n'].all fun d =>
        !(d.isDigit || d == '-')) = true := rfl
    have hc' := List.all_eq_true.mp hnone c hd
    rcases hc with hc | rfl
    · rw [hc] at hc'
      cases hc'
    · cases hc'
  simp only [List.mem_cons, List.not_mem_nil, or_false, forall_eq_or_imp, forall_eq] at hother
  have hgap : skipGap (c :: (digits ++ rest)) = c :: (digits ++ rest) := by
    simp [skipGap, isGap, hother]
  rw [value?, hgap]
  split <;> simp_all

/-- **The reader gives back the value of every text that spells it.** -/
theorem Spells.reads {text : List Char} {value : Json} (h : Spells text value) :
    Reads text value := by
  induction h with
  | null =>
    intro fuel rest hfuel _
    obtain ⟨fuel, rfl⟩ : ∃ before, fuel = before + 1 := ⟨fuel - 1, by omega⟩
    simp [value?, skipGap, isGap, word?]
  | boolean b =>
    intro fuel rest hfuel _
    obtain ⟨fuel, rfl⟩ : ∃ before, fuel = before + 1 := ⟨fuel - 1, by omega⟩
    cases b <;> simp [Json.boolean, value?, skipGap, isGap, word?]
  | integer n => exact reads_integer n
  | text s =>
    intro fuel rest hfuel _
    obtain ⟨fuel, rfl⟩ : ∃ before, fuel = before + 1 := ⟨fuel - 1, by omega⟩
    simp [value?, quote, skipGap, isGap, text?_escaped]
  | @object members _ ih =>
    intro fuel rest hfuel _
    obtain ⟨fuel, rfl⟩ : ∃ before, fuel = before + 1 := ⟨fuel - 1, by omega⟩
    have hwritten : objectText members ++ rest =
        '\x7b' :: (separated (members.map Member.written) ++ '\x7d' :: rest) := by
      simp [objectText, braced]
    rw [hwritten, value?]
    cases members with
    | nil => simp [separated, objectValue, skipGap, isGap]
    | cons m members =>
      obtain ⟨tail, htail⟩ := separated_begins m members
      have hlength : (separated ((m :: members).map Member.written)).length < fuel := by
        simp only [objectText, braced, List.cons_append, List.length_cons, List.length_append]
          at hfuel
        omega
      have hmembers := members?_separated (List.cons_ne_nil m members) ih rest hlength
      rw [htail, List.cons_append] at hmembers
      rw [htail]
      simp [skipGap, isGap, objectValue, hmembers]

theorem read?_of_spells {text : List Char} {value : Json} (h : Spells text value) :
    read? (String.ofList text) = some value := by
  have hread := h.reads (text.length + 1) [] (Nat.lt_succ_self _) .nothing
  rw [List.append_nil] at hread
  simp [read?, hread, skipGap]

end EntityStore.Json
