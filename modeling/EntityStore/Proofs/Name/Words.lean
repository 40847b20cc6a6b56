import EntityStore.Proofs.Mapping
/-!
# Storage names and the words of a name

Underscores are written into a name by a pass that takes the two characters of a boundary away
together.  No boundary gets lost by this: the second character of a boundary is an upper-case
letter, and such a letter is never the first character of another.  So a storage name is what a pass
writes that goes over the name once and looks at one character and the next (`snake`,
`lower_separateWords`).

What a storage name keeps of a valid name are the letters and digits without their case, and the
places of the boundaries (`snake_inj`).  Nothing else can be read off it: `aB` and `AB` are told
apart by their boundaries, `AB` and `Ab` are not.  In a name in camel case without runs of
capitals, an upper-case letter stands behind each boundary and nowhere else, and the name is
determined (`eq_of_boundaries`).  Main statement: `storage_faithful`.
-/

namespace EntityStore.Name

/-! ## 1. Characters -/

theorem isUpper_iff_toNat {c : Char} : c.isUpper = true ↔ 65 ≤ c.toNat ∧ c.toNat ≤ 90 := by
  simp [Char.isUpper, UInt32.le_iff_toNat_le, ← Char.toNat_val]

theorem isLower_iff_toNat {c : Char} : c.isLower = true ↔ 97 ≤ c.toNat ∧ c.toNat ≤ 122 := by
  simp [Char.isLower, UInt32.le_iff_toNat_le, ← Char.toNat_val]

theorem isDigit_iff_toNat {c : Char} : c.isDigit = true ↔ 48 ≤ c.toNat ∧ c.toNat ≤ 57 :=
  Char.isDigit_iff_toNat

theorem toNat_toLower_of_isUpper {c : Char} (h : c.isUpper = true) :
    c.toLower.toNat = c.toNat + 32 := by
  refine (toNat_toLower ?_).2.2
  simpa [Char.isUpper] using h

theorem toLower_of_not_isUpper {c : Char} (h : c.isUpper = false) : c.toLower = c := by
  refine dif_neg fun hupper => ?_
  have : c.isUpper = true := by simpa [Char.isUpper] using hupper
  rw [h] at this
  cases this

theorem isUpper_toLower (c : Char) : c.toLower.isUpper = false := by
  rw [Bool.eq_false_iff]
  intro hlower
  cases h : c.isUpper with
  | false =>
    rw [toLower_of_not_isUpper h, h] at hlower
    cases hlower
  | true =>
    have hsum := toNat_toLower_of_isUpper h
    rw [isUpper_iff_toNat] at h hlower
    omega

theorem isLower_toLower {c : Char} (h : c.isAlpha = true) : c.toLower.isLower = true := by
  rcases Bool.or_eq_true_iff.mp h with hupper | hlower
  · have hsum := toNat_toLower_of_isUpper hupper
    rw [isUpper_iff_toNat] at hupper
    rw [isLower_iff_toNat]
    omega
  · have hupper : c.isUpper = false := by
      rw [Bool.eq_false_iff]
      intro hupper
      rw [isUpper_iff_toNat] at hupper
      rw [isLower_iff_toNat] at hlower
      omega
    rwa [toLower_of_not_isUpper hupper]

/-- A letter or digit is an upper-case letter, or it ends a word before one. -/
theorem endsWord_eq {c : Char} (h : c.isAlphanum = true) : endsWord c = !c.isUpper := by
  cases hupper : c.isUpper with
  | true =>
    rw [Bool.not_true, endsWord, Bool.or_eq_false_iff, Bool.eq_false_iff, Bool.eq_false_iff]
    rw [ne_eq, ne_eq, isLower_iff_toNat, isDigit_iff_toNat]
    rw [isUpper_iff_toNat] at hupper
    omega
  | false => simpa [Char.isAlphanum, Char.isAlpha, hupper, endsWord] using h

/-- In lower case a letter or digit still ends a word. -/
theorem endsWord_toLower {c : Char} (h : c.isAlphanum = true) : endsWord c.toLower = true := by
  cases hupper : c.isUpper with
  | true =>
    have hlower : c.toLower.isLower = true := isLower_toLower (by simp [Char.isAlpha, hupper])
    simp [endsWord, hlower]
  | false => rw [toLower_of_not_isUpper hupper, endsWord_eq h, hupper, Bool.not_false]

theorem toLower_ne_underscore {c : Char} (h : c.isAlphanum = true) : c.toLower ≠ '_' := by
  intro heq
  have hends := endsWord_toLower h
  rw [heq] at hends
  exact absurd hends (by decide)

/-- A letter is known if it is known without its case, and whether it is an upper-case one. -/
theorem eq_of_toLower_eq {a b : Char} (hlower : a.toLower = b.toLower)
    (hupper : a.isUpper = b.isUpper) : a = b := by
  cases h : a.isUpper with
  | false => rwa [toLower_of_not_isUpper h, toLower_of_not_isUpper (hupper ▸ h)] at hlower
  | true =>
    have ha := toNat_toLower_of_isUpper h
    have hb := toNat_toLower_of_isUpper (hupper ▸ h)
    rw [hlower] at ha
    exact Char.toNat_inj.mp (by omega)

/-! ## 2. One pass -/

/-- What is written between a character and the next: an underscore between a lower-case letter or
digit and an upper-case letter. -/
def gap (a b : Char) : List Char :=
  if (a.isLower || a.isDigit) && b.isUpper then ['_'] else []

/-- Writes characters in lower case, with the gaps between them. -/
def snake : List Char → List Char
  | [] => []
  | [c] => [c.toLower]
  | a :: b :: rest => a.toLower :: (gap a b ++ snake (b :: rest))

theorem snake_cons_of_isUpper {c : Char} (h : c.isUpper = true) (rest : List Char) :
    snake (c :: rest) = c.toLower :: snake rest := by
  have hends : endsWord c = false := by
    rw [endsWord_eq (by simp [Char.isAlphanum, Char.isAlpha, h]), h, Bool.not_true]
  cases rest with
  | nil => rfl
  | cons d rest =>
    have hgap : gap c d = [] := by
      rw [gap, show (c.isLower || c.isDigit) = false from hends]
      rfl
    rw [snake, hgap, List.nil_append]

/-- **No boundary gets lost**: the characters that are taken away in pairs are written as by a
single pass. -/
theorem lower_separateWords (chars : List Char) :
    (separateWords chars).map Char.toLower = snake chars := by
  fun_induction separateWords chars with
  | case1 a b rest hboundary ih =>
    have hgap : gap a b = ['_'] := if_pos hboundary
    have hb : b.isUpper = true := (Bool.and_eq_true_iff.mp hboundary).2
    rw [List.map_cons, List.map_cons, List.map_cons, ih, snake, hgap, snake_cons_of_isUpper hb]
    rfl
  | case2 a b rest hnone ih =>
    have hgap : gap a b = [] := if_neg hnone
    rw [List.map_cons, ih, snake, hgap, List.nil_append]
  | case3 short hshort =>
    match short with
    | [] => rfl
    | [c] => rfl
    | a :: b :: rest => exact absurd rfl (hshort a b rest)

theorem toList_storage (name : String) : (storage name).toList = snake name.toList := by
  rw [storage, String.toList_ofList, storageChars, lower_separateWords]

theorem not_isUpper_of_mem_snake {c : Char} {chars : List Char} (h : c ∈ snake chars) :
    c.isUpper = false := by
  rw [← lower_separateWords] at h
  obtain ⟨d, -, rfl⟩ := List.mem_map.mp h
  exact isUpper_toLower d

/-- Where there are no upper-case letters there is nothing to do. -/
theorem snake_of_forall_not_isUpper {chars : List Char} (h : ∀ c ∈ chars, c.isUpper = false) :
    snake chars = chars := by
  fun_induction snake chars with
  | case1 => rfl
  | case2 c => rw [toLower_of_not_isUpper (h c List.mem_cons_self)]
  | case3 a b rest ih =>
    obtain ⟨ha, hrest⟩ := List.forall_mem_cons.mp h
    have hgap : gap a b = [] := by
      rw [gap, hrest b List.mem_cons_self, Bool.and_false]
      rfl
    rw [ih hrest, hgap, toLower_of_not_isUpper ha, List.nil_append]

theorem storage_storage (name : String) : storage (storage name) = storage name := by
  rw [← String.toList_inj, toList_storage, toList_storage]
  exact snake_of_forall_not_isUpper fun c hc => not_isUpper_of_mem_snake hc

/-! ## 3. Words -/

/-- A name begins with a letter and is made of letters and digits. -/
structure Valid (name : String) : Prop where
  first : ∃ c, name.toList.head? = some c ∧ c.isAlpha = true
  characters : ∀ c ∈ name.toList, c.isAlphanum = true

theorem valid_iff {name : String} : Valid name ↔ isValid name = true := by
  have hvalid : isValid name = true ↔ (∃ c, name.toList.head? = some c ∧ c.isAlpha = true) ∧
      ∀ c ∈ name.toList, c.isAlphanum = true := by
    rw [isValid]
    cases name.toList with
    | nil => simp [isValidChars]
    | cons first rest =>
      have hletter : first.isAlpha = true → first.isAlphanum = true := by
        intro hfirst
        rw [Char.isAlphanum, hfirst, Bool.true_or]
      simp only [isValidChars, Bool.and_eq_true, List.all_eq_true, List.head?_cons,
        Option.some.injEq, exists_eq_left', List.forall_mem_cons]
      exact ⟨fun h => ⟨h.1, hletter h.1, h.2⟩, fun h => ⟨h.1, h.2.2⟩⟩
  rw [hvalid]
  exact ⟨fun h => ⟨h.first, h.characters⟩, fun h => ⟨h.1, h.2⟩⟩

/-- A word of a storage name: a lower-case letter, and then lower-case letters and digits. -/
structure IsWord (word : List Char) : Prop where
  first : ∃ c, word.head? = some c ∧ c.isLower = true
  characters : ∀ c ∈ word, c.isLower = true ∨ c.isDigit = true

theorem endsWord_iff {c : Char} : endsWord c = true ↔ c.isLower = true ∨ c.isDigit = true :=
  Bool.or_eq_true_iff

/-- The characters of a name in words.  The first word is only known to begin with the first
character, which may be a digit here. -/
theorem exists_words {first : Char} {rest : List Char} (hfirst : first.isAlphanum = true)
    (hrest : ∀ c ∈ rest, c.isAlphanum = true) :
    ∃ tail words, (∀ c ∈ tail, c.isLower = true ∨ c.isDigit = true) ∧ (∀ w ∈ words, IsWord w) ∧
      snake (first :: rest) = ['_'].intercalate ((first.toLower :: tail) :: words) := by
  induction rest generalizing first with
  | nil => exact ⟨[], [], by simp, by simp, by simp [snake]⟩
  | cons next rest ih =>
    obtain ⟨hnext, hrest⟩ := List.forall_mem_cons.mp hrest
    obtain ⟨tail, words, htail, hwords, hsnake⟩ := ih hnext hrest
    have hlower : next.toLower.isLower = true ∨ next.toLower.isDigit = true :=
      endsWord_iff.mp (endsWord_toLower hnext)
    cases hboundary : (first.isLower || first.isDigit) && next.isUpper with
    | true =>
      -- the word that begins at the boundary begins with a letter
      have hupper : next.isUpper = true := (Bool.and_eq_true_iff.mp hboundary).2
      have hword : IsWord (next.toLower :: tail) :=
        ⟨⟨_, rfl, isLower_toLower (by simp [Char.isAlpha, hupper])⟩,
          List.forall_mem_cons.mpr ⟨hlower, htail⟩⟩
      refine ⟨[], (next.toLower :: tail) :: words, by simp,
        List.forall_mem_cons.mpr ⟨hword, hwords⟩, ?_⟩
      rw [snake, gap, hboundary, if_pos rfl, hsnake, List.intercalate_cons_cons]
      rfl
    | false =>
      refine ⟨next.toLower :: tail, words, List.forall_mem_cons.mpr ⟨hlower, htail⟩, hwords, ?_⟩
      rw [snake, gap, hboundary, if_neg Bool.false_ne_true, List.nil_append, hsnake]
      cases words with
      | nil => simp
      | cons word words => simp [List.intercalate_cons_cons]

/-- Without the underscores a storage name is the name in lower case. -/
theorem filter_snake {chars : List Char} (h : ∀ c ∈ chars, c.isAlphanum = true) :
    (snake chars).filter (· != '_') = chars.map Char.toLower := by
  fun_induction snake chars with
  | case1 => rfl
  | case2 c =>
    have hc := toLower_ne_underscore (h c List.mem_cons_self)
    simp [hc]
  | case3 a b rest ih =>
    obtain ⟨ha, hrest⟩ := List.forall_mem_cons.mp h
    have ha := toLower_ne_underscore ha
    have hgap : (gap a b).filter (· != '_') = [] := by
      unfold gap
      split <;> rfl
    rw [List.filter_cons_of_pos (by simpa using ha), List.filter_append, hgap, List.nil_append,
      ih hrest]
    rfl

/-! ## 4. What is kept of a name -/

/-- A boundary stands behind the character at a place: it is a lower-case letter or a digit, and the
next one is an upper-case letter. -/
def BoundaryAt (chars : List Char) (place : Nat) : Prop :=
  ∃ a b, chars[place]? = some a ∧ chars[place + 1]? = some b ∧
    (a.isLower = true ∨ a.isDigit = true) ∧ b.isUpper = true

theorem boundaryAt_zero {a b : Char} {rest : List Char} :
    BoundaryAt (a :: b :: rest) 0 ↔ gap a b = ['_'] := by
  simp [BoundaryAt, gap]

theorem boundaryAt_succ {c : Char} {rest : List Char} {place : Nat} :
    BoundaryAt (c :: rest) (place + 1) ↔ BoundaryAt rest place :=
  Iff.rfl

theorem not_boundaryAt_singleton {c : Char} {place : Nat} : ¬ BoundaryAt [c] place := by
  rintro ⟨a, b, -, hb, -⟩
  simp at hb

theorem gap_eq_or (a b : Char) : gap a b = ['_'] ∨ gap a b = [] := by
  unfold gap
  split
  · exact .inl rfl
  · exact .inr rfl

theorem gap_eq_gap_iff {a b c d : Char} :
    gap a b = gap c d ↔ (gap a b = ['_'] ↔ gap c d = ['_']) := by
  rcases gap_eq_or a b with h | h <;> rcases gap_eq_or c d with h' | h' <;> simp [h, h']

/-- Names have the same boundaries if they have the same first gap, and the same boundaries behind
it. -/
theorem forall_boundaryAt_iff {a b c d : Char} {rest rest' : List Char} :
    (∀ place, BoundaryAt (a :: b :: rest) place ↔ BoundaryAt (c :: d :: rest') place) ↔
      gap a b = gap c d ∧
        ∀ place, BoundaryAt (b :: rest) place ↔ BoundaryAt (d :: rest') place := by
  rw [← Nat.and_forall_add_one, boundaryAt_zero, boundaryAt_zero, gap_eq_gap_iff]
  simp only [boundaryAt_succ]

/-- A gap is told from the letter or digit behind it. -/
theorem gap_append_inj {a b c d : Char} {rest rest' : List Char} (hb : b.isAlphanum = true)
    (hd : d.isAlphanum = true) :
    gap a b ++ snake (b :: rest) = gap c d ++ snake (d :: rest') ↔
      gap a b = gap c d ∧ snake (b :: rest) = snake (d :: rest') := by
  have hhead : ∀ (x : Char) (more : List Char), (snake (x :: more)).head? = some x.toLower := by
    intro x more
    cases more <;> rfl
  have hapart : ∀ {x : Char} {more chars : List Char}, x.isAlphanum = true →
      snake (x :: more) ≠ '_' :: chars := by
    intro x more chars hx heq
    have := hhead x more
    rw [heq] at this
    exact toLower_ne_underscore hx (Option.some.inj this).symm
  rcases gap_eq_or a b with h | h <;> rcases gap_eq_or c d with h' | h' <;> rw [h, h']
  · simp
  · simpa using (hapart hd).symm
  · simpa using hapart hb
  · simp

/-- **A storage name keeps the characters without their case and the boundaries**, and nothing
else. -/
theorem snake_inj {chars chars' : List Char} (h : ∀ c ∈ chars, c.isAlphanum = true)
    (h' : ∀ c ∈ chars', c.isAlphanum = true) :
    snake chars = snake chars' ↔ chars.map Char.toLower = chars'.map Char.toLower ∧
      ∀ place, BoundaryAt chars place ↔ BoundaryAt chars' place := by
  -- the characters can be read off the names, so that the names are of equal length
  rw [← and_iff_right_of_imp fun heq : snake chars = snake chars' =>
    show chars.map Char.toLower = chars'.map Char.toLower by
      rw [← filter_snake h, ← filter_snake h', heq]]
  refine and_congr_right fun hlower => ?_
  fun_induction snake chars generalizing chars' with
  | case1 =>
    obtain rfl : chars' = [] := by simpa using hlower.symm
    simp [snake]
  | case2 c =>
    obtain ⟨d, rfl, hd⟩ := List.map_eq_singleton_iff.mp hlower.symm
    simp [snake, hd, not_boundaryAt_singleton]
  | case3 a b rest ih =>
    obtain ⟨a', tail', rfl, ha', htail⟩ := List.map_eq_cons_iff.mp hlower.symm
    obtain ⟨b', rest', rfl, hb', hrest'⟩ := List.map_eq_cons_iff.mp htail
    obtain ⟨-, h⟩ := List.forall_mem_cons.mp h
    obtain ⟨-, h'⟩ := List.forall_mem_cons.mp h'
    rw [snake, ha', List.cons.injEq, and_iff_right rfl,
      gap_append_inj (h b List.mem_cons_self) (h' b' List.mem_cons_self),
      ih h h' htail.symm, forall_boundaryAt_iff]

/-! ## 5. Camel case -/

/-- A name in camel case without runs of capitals: a valid name that begins with a lower-case
letter, and in which no two upper-case letters stand side by side. -/
structure Camel (name : String) : Prop extends Valid name where
  lower : ∃ c, name.toList.head? = some c ∧ c.isLower = true
  apart : name.toList.IsChain fun a b => ¬ (a.isUpper = true ∧ b.isUpper = true)

/-- In camel case an upper-case letter stands behind each boundary and nowhere else, so that the
boundaries tell the case of each letter from that of the letter before it. -/
theorem eq_of_boundaries {first : Char} {rest rest' : List Char}
    (h : ∀ c ∈ first :: rest, c.isAlphanum = true)
    (hapart : (first :: rest).IsChain fun a b => ¬ (a.isUpper = true ∧ b.isUpper = true))
    (hapart' : (first :: rest').IsChain fun a b => ¬ (a.isUpper = true ∧ b.isUpper = true))
    (hlower : rest.map Char.toLower = rest'.map Char.toLower)
    (hboundary : ∀ place, BoundaryAt (first :: rest) place ↔ BoundaryAt (first :: rest') place) :
    rest = rest' := by
  induction rest generalizing first rest' with
  | nil => simpa using hlower.symm
  | cons next rest ih =>
    obtain ⟨next', rest', rfl, hnext, hrest⟩ := List.map_eq_cons_iff.mp hlower.symm
    obtain ⟨hfirst, h⟩ := List.forall_mem_cons.mp h
    obtain ⟨hgap, hrestboundary⟩ := forall_boundaryAt_iff.mp hboundary
    rw [List.isChain_cons_cons] at hapart hapart'
    have hcase : next.isUpper = true ↔ next'.isUpper = true := by
      cases hupper : first.isUpper with
      | true =>
        have hnone : ¬ next.isUpper = true := fun hn => hapart.1 ⟨hupper, hn⟩
        have hnone' : ¬ next'.isUpper = true := fun hn => hapart'.1 ⟨hupper, hn⟩
        exact iff_of_false hnone hnone'
      | false =>
        have hends : (first.isLower || first.isDigit) = true := by
          rw [show (first.isLower || first.isDigit) = endsWord first from rfl, endsWord_eq hfirst,
            hupper, Bool.not_false]
        have hboth := gap_eq_gap_iff.mp hgap
        simpa [gap, hends] using hboth
    obtain rfl : next = next' := eq_of_toLower_eq hnext.symm (Bool.eq_iff_iff.mpr hcase)
    rw [ih h hapart.2 hapart'.2 hrest.symm hrestboundary]

theorem Camel.eq {a b : String} (ha : Camel a) (hb : Camel b) (hsame : fold a = fold b)
    (hboundary : ∀ place, BoundaryAt a.toList place ↔ BoundaryAt b.toList place) : a = b := by
  obtain ⟨first, hfirst, hlower⟩ := ha.lower
  obtain ⟨first', hfirst', hlower'⟩ := hb.lower
  have hchars := ha.characters
  have hapart := ha.apart
  have hapart' := hb.apart
  rw [← String.toList_inj]
  unfold fold at hsame
  obtain ⟨rest, hrest⟩ := List.head?_eq_some_iff.mp hfirst
  obtain ⟨rest', hrest'⟩ := List.head?_eq_some_iff.mp hfirst'
  rw [hrest] at hchars hapart hsame hboundary ⊢
  rw [hrest'] at hapart' hsame hboundary ⊢
  obtain ⟨hhead, htail⟩ := List.cons.inj hsame
  have hupper : ∀ {c : Char}, c.isLower = true → c.isUpper = false := by
    intro c hc
    rw [Bool.eq_false_iff, ne_eq, isUpper_iff_toNat]
    rw [isLower_iff_toNat] at hc
    omega
  obtain rfl : first = first' :=
    eq_of_toLower_eq hhead ((hupper hlower).trans (hupper hlower').symm)
  rw [eq_of_boundaries hchars hapart hapart' htail hboundary]

/-! ## 6. Storage names -/

theorem words_storage {name : String} (h : Valid name) : ∃ words, words ≠ [] ∧
    (∀ word ∈ words, IsWord word) ∧ (storage name).toList = ['_'].intercalate words := by
  obtain ⟨first, hfirst, halpha⟩ := h.first
  have hchars := h.characters
  obtain ⟨rest, hrest⟩ := List.head?_eq_some_iff.mp hfirst
  rw [toList_storage]
  rw [hrest] at hchars ⊢
  obtain ⟨hfirst, hchars⟩ := List.forall_mem_cons.mp hchars
  obtain ⟨tail, words, htail, hwords, hsnake⟩ := exists_words hfirst hchars
  have hlower := isLower_toLower halpha
  have hword : IsWord (first.toLower :: tail) :=
    ⟨⟨_, rfl, hlower⟩, List.forall_mem_cons.mpr ⟨.inl hlower, htail⟩⟩
  exact ⟨_ :: words, by simp, List.forall_mem_cons.mpr ⟨hword, hwords⟩, hsnake⟩

theorem storage_eq_iff {a b : String} (ha : Valid a) (hb : Valid b) : storage a = storage b ↔
    same a b = true ∧ ∀ place, BoundaryAt a.toList place ↔ BoundaryAt b.toList place := by
  rw [← String.toList_inj, toList_storage, toList_storage, snake_inj ha.characters hb.characters,
    same, beq_iff_eq]
  rfl

/-- How storage names are made, what they look like, and what can be read off them. -/
structure Faithful : Prop where
  /-- A storage name is written in one pass, whatever the name. -/
  pass : ∀ name, storage name = String.ofList (snake name.toList)
  idempotent : ∀ name, storage (storage name) = storage name
  /-- The storage name of a valid name consists of words with one underscore between them. -/
  words : ∀ name, Valid name → ∃ words, words ≠ [] ∧ (∀ word ∈ words, IsWord word) ∧
    (storage name).toList = ['_'].intercalate words
  letters : ∀ name, Valid name →
    (storage name).toList.filter (· != '_') = name.toList.map Char.toLower
  /-- Two valid names share a storage name if they differ in case only, and not in boundaries. -/
  eq_iff : ∀ a b, Valid a → Valid b → (storage a = storage b ↔
    same a b = true ∧ ∀ place, BoundaryAt a.toList place ↔ BoundaryAt b.toList place)
  injective : Set.InjOn storage {name | Camel name}

/-- **Storage names are a faithful snake case.** -/
theorem storage_faithful : Faithful where
  pass := fun name => by rw [← toList_storage, String.ofList_toList]
  idempotent := storage_storage
  words := fun _ => words_storage
  letters := fun name h => by
    rw [toList_storage]
    exact filter_snake h.characters
  eq_iff := fun _ _ => storage_eq_iff
  injective := by
    intro a ha b hb hstorage
    obtain ⟨hsame, hboundary⟩ := (storage_eq_iff ha.toValid hb.toValid).mp hstorage
    exact ha.eq hb (eq_of_beq hsame) hboundary

/-- Inside a run of capitals the case of a letter makes no difference, behind a digit it does. -/
theorem storage_faithful_capitals :
    (Valid "lineHTTP2Go" ∧ Valid "lineHTtp2Go" ∧
      ∀ place, BoundaryAt "lineHTTP2Go".toList place ↔ BoundaryAt "lineHTtp2Go".toList place) ∧
      Camel "lineHttp2Go" ∧ Camel "lineHttp2go" ∧
        storage "lineHttp2Go" ≠ storage "lineHttp2go" := by
  have hrun : Valid "lineHTTP2Go" := valid_iff.mpr (by decide)
  have hrun' : Valid "lineHTtp2Go" := valid_iff.mpr (by decide)
  have hcamel : Camel "lineHttp2Go" := ⟨valid_iff.mpr (by decide), ⟨'l', rfl, rfl⟩, by decide⟩
  have hcamel' : Camel "lineHttp2go" := ⟨valid_iff.mpr (by decide), ⟨'l', rfl, rfl⟩, by decide⟩
  have hsame := (storage_faithful.eq_iff _ _ hrun hrun').mp (by decide)
  refine ⟨⟨hrun, hrun', hsame.2⟩, hcamel, hcamel', ?_⟩
  intro hstorage
  have heq := storage_faithful.injective hcamel hcamel' hstorage
  revert heq
  decide

end EntityStore.Name
