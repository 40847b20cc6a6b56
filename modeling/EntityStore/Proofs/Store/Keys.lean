import EntityStore.Proofs.Store.Soundness
/-!
# The keys that the store chooses

A new row that comes without a key is given one by the store: one more than the largest key in the
table, or more than that where keys are never used again.  Where the largest key there is has been
reached the store guesses, if keys may be used again, and otherwise there is no key
(`chooseKey_eq`).  Whatever numbers it draws:

* no row has the key that is chosen (`row?_of_chooseKey`), and unless it was guessed it is larger
  than every key in the table (`lt_of_chooseKey`);
* none can be chosen only when the largest key there is has been reached, and all guesses are taken
  (`chooseKey_error`).

Zero is a key like any other: it is chosen after minus one, unless keys are never used again
(`chooseKey_eq_zero`).  It is never guessed (`Draw.key_pos`).
-/

namespace EntityStore.Table

variable {t : Table} {key : Int64}

/-! ## 1. The largest key -/

theorem toInt_nextKey {k : Int64} (h : k ≠ maxKey) : (nextKey k).toInt = k.toInt + 1 := by
  have hne : k.toInt ≠ maxKey.toInt := fun he => h (Int64.toInt_inj.mp he)
  have hmax : maxKey.toInt = 2 ^ 63 - 1 := Int64.toInt_maxValue
  have hlt := k.toInt_lt
  have hge := k.le_toInt
  rw [nextKey, Int64.toInt_ofInt_of_le] <;> omega

/-- The rows of a sound table have keys up to that of the last one. -/
theorem Sound.le_largest (h : t.Sound) (hlargest : t.largestKey? = some key) :
    (∃ row ∈ t.rows, row.key = key) ∧ ∀ row ∈ t.rows, row.key.toInt ≤ key.toInt := by
  obtain ⟨last, hlast, rfl⟩ := Option.map_eq_some_iff.mp hlargest
  obtain ⟨before, hrows⟩ := List.getLast?_eq_some_iff.mp hlast
  refine ⟨⟨last, hrows ▸ List.mem_append_right _ List.mem_cons_self, rfl⟩, fun row hrow => ?_⟩
  have hsorted := h.sorted
  rw [hrows] at hsorted hrow
  rcases List.mem_append.mp hrow with hrow | hrow
  · have hlt := (List.pairwise_append.mp hsorted).2.2 row hrow last List.mem_cons_self
    exact Int.le_of_lt (Int64.lt_iff_toInt_lt.mp hlt)
  · exact Int.le_of_eq (congrArg (·.key.toInt) (List.mem_singleton.mp hrow))

theorem rows_eq_nil (h : t.largestKey? = none) : t.rows = [] :=
  List.getLast?_eq_none_iff.mp (Option.map_eq_none_iff.mp h)

/-- A row whose key is not exceeded has the largest. -/
theorem Sound.largestKey?_eq (h : t.Sound) {row : Row} (hrow : row ∈ t.rows)
    (hmax : ∀ other ∈ t.rows, other.key.toInt ≤ row.key.toInt) :
    t.largestKey? = some row.key := by
  cases hlargest : t.largestKey? with
  | none =>
    rw [rows_eq_nil hlargest] at hrow
    cases hrow
  | some k =>
    obtain ⟨⟨last, hlast, rfl⟩, hle⟩ := h.le_largest hlargest
    exact congrArg some (Int64.toInt_inj.mp (Int.le_antisymm (hmax last hlast) (hle row hrow)))

/-- One more than the largest key, or one in an empty table. -/
def followingKey (t : Table) : Int64 :=
  (t.largestKey?.map nextKey).getD 1

theorem lt_followingKey (h : t.Sound) (hmax : t.largestKey? ≠ some maxKey) {row : Row}
    (hrow : row ∈ t.rows) : row.key.toInt < t.followingKey.toInt := by
  unfold followingKey
  cases hlargest : t.largestKey? with
  | none =>
    rw [rows_eq_nil hlargest] at hrow
    cases hrow
  | some k =>
    have hle := (h.le_largest hlargest).2 row hrow
    have hnext := toInt_nextKey (k := k) fun hk => hmax (hk ▸ hlargest)
    simp only [Option.map_some, Option.getD_some]
    omega

/-! ## 2. Guesses -/

theorem toInt_drawKey (d : Draw) : d.key.toInt = d.val + 1 := by
  have hlt := d.isLt
  rw [Draw.key, Int64.toInt_ofNat_of_lt (by omega)]
  omega

/-- Zero is never guessed, and no key below it. -/
theorem Draw.key_pos (d : Draw) : 0 < d.key.toInt := by
  rw [toInt_drawKey]
  omega

theorem length_drawn (t : Table) : t.drawn.length = guesses := by
  simp [drawn]

/-- A guess is a key that no row has. -/
theorem row?_of_guessKey (hkey : t.guessKey = .ok key) :
    (∃ d : Draw, d.key = key) ∧ t.row? key = none := by
  unfold guessKey at hkey
  split at hkey
  · rename_i d hfound
    cases hkey
    exact ⟨⟨d, rfl⟩, Option.isNone_iff_eq_none.mp
      (List.find?_some (p := fun d : Draw => (t.row? d.key).isNone) hfound)⟩
  · cases hkey

/-- The store gives up guessing when a hundred guesses are taken. -/
theorem guessKey_error {fault : StoreFault} (hkey : t.guessKey = .error fault) :
    ∀ d ∈ t.drawn, ∃ row ∈ t.rows, row.key = Draw.key d := by
  unfold guessKey at hkey
  split at hkey
  · cases hkey
  · rename_i hnone
    intro d hd
    have htaken := List.find?_eq_none.mp hnone d hd
    rw [Option.isNone_iff_eq_none, row?_eq_none] at htaken
    push Not at htaken
    exact htaken

/-! ## 3. The chosen key -/

theorem chooseKey_eq (t : Table) : t.chooseKey =
    if t.largestKey? = some maxKey then
      if t.isAutoincrement then .error .full else t.guessKey
    else if t.isAutoincrement then
      if t.lastKey = maxKey then .error .full
      else if t.followingKey ≤ t.lastKey then .ok (nextKey t.lastKey)
      else .ok t.followingKey
    else .ok t.followingKey := rfl

/-- **A key that the store chooses without guessing is larger than every key in the table.** -/
theorem lt_of_chooseKey (h : t.Sound) (hmax : t.largestKey? ≠ some maxKey)
    (hkey : t.chooseKey = .ok key) {row : Row} (hrow : row ∈ t.rows) :
    row.key.toInt < key.toInt := by
  rw [chooseKey_eq, if_neg hmax] at hkey
  have hlt := lt_followingKey h hmax hrow
  split at hkey
  · split at hkey
    · cases hkey
    rename_i hlast
    split at hkey
    · rename_i hle
      cases hkey
      have hle := Int64.le_iff_toInt_le.mp hle
      have hnext := toInt_nextKey hlast
      omega
    · cases hkey
      exact hlt
  · cases hkey
    exact hlt

/-- **No row has the key that the store chooses.** -/
theorem row?_of_chooseKey (h : t.Sound) (hkey : t.chooseKey = .ok key) : t.row? key = none := by
  by_cases hmax : t.largestKey? = some maxKey
  · rw [chooseKey_eq, if_pos hmax] at hkey
    split at hkey
    · cases hkey
    · exact (row?_of_guessKey hkey).2
  · refine row?_eq_none.mpr fun row hrow heq => ?_
    have hlt := lt_of_chooseKey h hmax hkey hrow
    rw [heq] at hlt
    omega

/-- Where keys are never used again, the key that is chosen is larger than the last one. -/
theorem lastKey_lt_of_chooseKey (hauto : t.isAutoincrement = true) (hkey : t.chooseKey = .ok key) :
    t.lastKey.toInt < key.toInt := by
  simp only [chooseKey_eq, hauto, if_true] at hkey
  split at hkey
  · cases hkey
  split at hkey
  · cases hkey
  rename_i hroom
  split at hkey
  · cases hkey
    have hnext := toInt_nextKey hroom
    omega
  · rename_i hlt
    cases hkey
    rw [Int64.le_iff_toInt_le] at hlt
    omega

/-- Keys that may be used again grow by one at most. -/
theorem chooseKey_le (h : t.Sound) (hauto : t.isAutoincrement = false) {n : Nat}
    (hn : ∀ row ∈ t.rows, row.key.toInt ≤ n) (hkey : t.chooseKey = .ok key) :
    key.toInt ≤ n + 1 := by
  rw [chooseKey_eq, hauto] at hkey
  simp only [Bool.false_eq_true, if_false] at hkey
  split at hkey
  · -- A guess is not more than the largest key, which is in the table.
    rename_i hmax
    obtain ⟨last, hlast, hkeyLast⟩ := (h.le_largest hmax).1
    have hlargest := hn last hlast
    have hle : key.toInt ≤ maxKey.toInt := by
      have hlt := key.toInt_lt
      have htop : maxKey.toInt = 2 ^ 63 - 1 := Int64.toInt_maxValue
      omega
    rw [hkeyLast] at hlargest
    omega
  rename_i hmax
  cases hkey
  unfold followingKey
  cases hlargest : t.largestKey? with
  | none =>
    have hone : (1 : Int64).toInt = 1 := by decide
    simp only [Option.map_none, Option.getD_none]
    omega
  | some k =>
    obtain ⟨row, hrow, rfl⟩ := (h.le_largest hlargest).1
    have hnext := toInt_nextKey (k := row.key) fun hk => hmax (hk ▸ hlargest)
    have hle := hn row hrow
    simp only [Option.map_some, Option.getD_some]
    omega

/-- **The store runs out of keys only past the largest one**, and where keys may be used again only
if it finds none by guessing. -/
theorem chooseKey_error (h : t.Sound) {fault : StoreFault} (hkey : t.chooseKey = .error fault) :
    t.isAutoincrement = true ∧ (t.lastKey = maxKey ∨ ∃ row ∈ t.rows, row.key = maxKey) ∨
      t.isAutoincrement = false ∧ (∃ row ∈ t.rows, row.key = maxKey) ∧
        ∀ d ∈ t.drawn, ∃ row ∈ t.rows, row.key = Draw.key d := by
  rw [chooseKey_eq] at hkey
  split at hkey
  · rename_i hmax
    have hrow := (h.le_largest hmax).1
    split at hkey
    · exact .inl ⟨‹_›, .inr hrow⟩
    · rename_i hauto
      exact .inr ⟨by simpa using hauto, hrow, guessKey_error hkey⟩
  · split at hkey
    · rename_i hauto
      split at hkey
      · exact .inl ⟨hauto, .inl ‹_›⟩
      · split at hkey <;> cases hkey
    · cases hkey

/-- Zero follows minus one, and no other key. -/
theorem followingKey_eq_zero (hmax : t.largestKey? ≠ some maxKey) :
    t.followingKey = 0 ↔ t.largestKey? = some (-1) := by
  unfold followingKey
  cases hlargest : t.largestKey? with
  | none => decide
  | some k =>
    rw [Option.map_some, Option.getD_some, Option.some_inj]
    constructor
    · intro hfollowing
      have hnext := toInt_nextKey (k := k) fun hk => hmax (hk ▸ hlargest)
      have hzero : (0 : Int64).toInt = 0 := by decide
      have hminus : (-1 : Int64).toInt = -1 := by decide
      rw [hfollowing] at hnext
      exact Int64.toInt_inj.mp (by omega)
    · rintro rfl
      decide

/-- **The store chooses zero only where keys may be used again, and after minus one.** -/
theorem chooseKey_eq_zero (hlast : 0 ≤ t.lastKey.toInt) :
    t.chooseKey = .ok 0 ↔ t.isAutoincrement = false ∧ t.largestKey? = some (-1) := by
  rw [chooseKey_eq]
  constructor
  · intro hkey
    split at hkey
    · split at hkey
      · cases hkey
      · obtain ⟨⟨d, hzero⟩, -⟩ := row?_of_guessKey hkey
        have hpos := Draw.key_pos d
        rw [hzero] at hpos
        exact absurd hpos (by decide)
    rename_i hmax
    split at hkey
    · -- A key that is never used again is more than the last one, which is not below zero.
      split at hkey
      · cases hkey
      rename_i hroom
      have hzero : (0 : Int64).toInt = 0 := by decide
      split at hkey
      · have hnext := toInt_nextKey hroom
        rw [Except.ok.inj hkey] at hnext
        omega
      · rename_i hnot
        rw [Except.ok.inj hkey, Int64.le_iff_toInt_le] at hnot
        omega
    · rename_i hauto
      exact ⟨by simpa using hauto, (followingKey_eq_zero hmax).mp (Except.ok.inj hkey)⟩
  · rintro ⟨hauto, hlargest⟩
    have hmax : t.largestKey? ≠ some maxKey := by
      rw [hlargest]
      decide
    rw [if_neg hmax, hauto, (followingKey_eq_zero hmax).mpr hlargest]
    rfl

/-- After zero it chooses one. -/
theorem chooseKey_of_zero (hauto : t.isAutoincrement = false) (hlargest : t.largestKey? = some 0) :
    t.chooseKey = .ok 1 := by
  have hmax : t.largestKey? ≠ some maxKey := by
    rw [hlargest]
    decide
  have hfollowing : t.followingKey = 1 := by
    rw [followingKey, hlargest]
    decide
  rw [chooseKey_eq, if_neg hmax, hauto, hfollowing]
  rfl

end EntityStore.Table
