import EntityStore.Statement.Reader
import Mathlib
/-!
# Statements are read back from their texts

The text of a statement says what the statement is: reading it gives the statement back, whatever
tables, columns and parameters are named in it (`read?_text`).  All that is asked of the names is
that no quote stands in the name of a table or a column, and that parameters are made of the
characters of words (`Statement.Legible`).  So two legible statements with the same text are the
same (`Statement.text_inj`), and the parameters that a text asks for are those of the statement
(`placeholders_text`).

Both steps of the reader are followed through the parts of a text.

* The scanner gives the tokens of the parts one after another.  A part may be followed by anything
  if it ends between two tokens (`Scanner.Ends`), and otherwise by what does not go on with its
  last token (`Scanner.Scans`).  All parts together give the spelling of the statement
  (`tokens_text`).
* The functions that read parts of a statement take exactly the part's tokens off the front
  (`items?_spelled`), and together they read the spelling (`ofTokens?_spelling`).
-/

namespace EntityStore

/-! ## 1. Scanning the parts of a text -/

namespace Scanner

/-- What follows does not go on with the token before it: it begins with something else than a
character of a word or a quote, if with anything. -/
def Breaks (rest : List Char) : Prop :=
  ∀ c ∈ rest.head?, isWordChar c = false ∧ c ≠ '"'

/-- Whether a text ends the token before it. -/
def separates (text : String) : Bool :=
  text.toList.head?.any fun c => !isWordChar c && c != '"'

/-- A text is scanned to some tokens, whatever follows it. -/
def Ends (text : String) (tokens : List Token) : Prop :=
  ∀ rest, between.scan (text.toList ++ rest) = tokens ++ between.scan rest

/-- A text is scanned to some tokens, if what follows does not go on with the last of them. -/
def Scans (text : String) (tokens : List Token) : Prop :=
  ∀ rest, Breaks rest → between.scan (text.toList ++ rest) = tokens ++ between.scan rest

theorem breaks_of_separates {text : String} (h : separates text = true) (rest : List Char) :
    Breaks (text.toList ++ rest) := by
  intro c hc
  unfold separates at h
  cases htext : text.toList with
  | nil => simp [htext] at h
  | cons d tail =>
    obtain rfl : d = c := by simpa [htext] using hc
    simpa [htext] using h

/-- Where a token can only go on with a character of a word or a quote, it ends. -/
theorem Breaks.scan {rest : List Char} (h : Breaks rest) (s : Scanner)
    (hs : ∀ c, isWordChar c = false → c ≠ '"' → s.goOn? c = none) :
    s.scan rest = s.pending ++ between.scan rest := by
  cases rest with
  | nil => simp [Scanner.scan, pending]
  | cons c rest =>
    have hc : s.goOn? c = none := hs c (h c rfl).1 (h c rfl).2
    rw [Scanner.scan, hc]
    rfl

theorem scan_parameter_append {chars : List Char} (h : ∀ c ∈ chars, isWordChar c = true)
    (read rest : List Char) :
    (parameter read).scan (chars ++ rest) = (parameter (read ++ chars)).scan rest := by
  induction chars generalizing read with
  | nil => simp
  | cons c chars ih =>
    obtain ⟨hc, hchars⟩ := List.forall_mem_cons.mp h
    simp [scan, goOn?, hc, ih hchars]

theorem scan_name_append {chars : List Char} (h : '"' ∉ chars) (read rest : List Char) :
    (name read).scan (chars ++ rest) = (name (read ++ chars)).scan rest := by
  induction chars generalizing read with
  | nil => simp
  | cons c chars ih =>
    have hc : c ≠ '"' := (List.ne_of_not_mem_cons h).symm
    simp [scan, goOn?, hc, ih (List.not_mem_of_not_mem_cons h)]

/-- **A name between quotes is one token**, if no quote stands in it. -/
theorem scans_quoted {name : String} (h : '"' ∉ name.toList) :
    Scans (quoted name) [.name name] := by
  intro rest hrest
  have htext : (quoted name).toList ++ rest = '"' :: (name.toList ++ '"' :: rest) := by
    simp [quoted]
  calc between.scan ((quoted name).toList ++ rest)
      = (Scanner.name []).scan (name.toList ++ '"' :: rest) := by rw [htext]; rfl
    _ = (closing name.toList).scan rest := by rw [scan_name_append h]; rfl
    _ = .name name :: between.scan rest := by
      rw [hrest.scan _ (by simp +contextual [goOn?]), pending, String.ofList_toList]
      rfl

/-- **A parameter behind its colon is one token**, if it is made of the characters of words. -/
theorem scans_placeholder {s : Slot} (h : ∀ c ∈ s.parameter.toList, isWordChar c = true) :
    Scans s.placeholder [.parameter s.parameter] := by
  intro rest hrest
  have htext : s.placeholder.toList ++ rest = ':' :: (s.parameter.toList ++ rest) := by
    simp [Slot.placeholder]
  calc between.scan (s.placeholder.toList ++ rest)
      = (parameter []).scan (s.parameter.toList ++ rest) := by rw [htext]; rfl
    _ = (parameter s.parameter.toList).scan rest := by rw [scan_parameter_append h]; rfl
    _ = .parameter s.parameter :: between.scan rest := by
      rw [hrest.scan _ (by simp +contextual [goOn?]), pending, String.ofList_toList]
      rfl

variable {a b : String} {s t : List Token}

theorem Ends.append_scans (ha : Ends a s) (hb : Scans b t) : Scans (a ++ b) (s ++ t) := by
  intro rest hrest
  rw [String.toList_append, List.append_assoc, ha, hb rest hrest, List.append_assoc]

theorem Scans.append_ends (ha : Scans a s) (hb : Ends b t) (h : separates b = true) :
    Ends (a ++ b) (s ++ t) := by
  intro rest
  rw [String.toList_append, List.append_assoc, ha _ (breaks_of_separates h rest), hb,
    List.append_assoc]

/-- Items with a separator between each two are scanned one after another. -/
theorem Scans.intercalate {α : Type} {text : α → String} {spell : α → List Token}
    {separator : String} {mid : List Token} (hmid : Ends separator mid)
    (hseparates : separates separator = true) {items : List α}
    (h : ∀ item ∈ items, Scans (text item) (spell item)) :
    Scans (String.intercalate separator (items.map text)) (mid.intercalate (items.map spell)) := by
  induction items with
  | nil => exact fun rest _ => rfl
  | cons item items ih =>
    obtain ⟨hitem, hitems⟩ := List.forall_mem_cons.mp h
    cases items with
    | nil => simpa using hitem
    | cons next items =>
      simp only [List.map_cons, String.intercalate_cons_cons, List.intercalate_cons_cons] at ih ⊢
      exact (hitem.append_ends hmid hseparates).append_scans (ih hitems)

end Scanner

/-! ## 2. The spelling of a statement -/

/-- The tokens of a column and its parameter around an equals sign. -/
def Slot.spelling (s : Slot) : List Token :=
  [.name s.column, .mark '=', .parameter s.parameter]

/-- The tokens of a column of a result under its label. -/
def Output.spelling (o : Output) : List Token :=
  [.name o.column, .word "AS", .name o.label]

/-- The tokens of conditions, if there are any. -/
def whereSpelling : List Slot → List Token
  | [] => []
  | conditions => .word "WHERE" :: [.word "AND"].intercalate (conditions.map Slot.spelling)

/-- The tokens of the column that rows are sorted by, if they are. -/
def orderSpelling : Option String → List Token
  | none => []
  | some column => [.word "ORDER", .word "BY", .name column, .word "ASC"]

/-- The tokens of the values of a new row. -/
def valuesSpelling : List Slot → List Token
  | [] => [.word "DEFAULT", .word "VALUES"]
  | values =>
    [.mark '('] ++ [.mark ','].intercalate (values.map fun s => [.name s.column]) ++
      [.mark ')', .word "VALUES", .mark '('] ++
      [.mark ','].intercalate (values.map fun s => [.parameter s.parameter]) ++ [.mark ')']

/-- Where there are values, columns stand before parameters, and both in brackets. -/
theorem valuesSpelling_append {values : List Slot} (hne : values ≠ []) (rest : List Token) :
    valuesSpelling values ++ rest =
      Token.mark '(' :: ([Token.mark ','].intercalate (values.map fun s => [Token.name s.column]) ++
        Token.mark ')' :: Token.word "VALUES" :: Token.mark '(' ::
          ([Token.mark ','].intercalate (values.map fun s => [Token.parameter s.parameter]) ++
            Token.mark ')' :: rest)) := by
  cases values with
  | nil => exact absurd rfl hne
  | cons first others =>
    simp only [valuesSpelling, List.append_assoc, List.cons_append, List.nil_append]

/-- The tokens of a statement. -/
def Statement.spelling : Statement → List Token
  | .select s =>
    [.word "SELECT"] ++ [.mark ','].intercalate (s.outputs.map Output.spelling) ++
      [.word "FROM"] ++ [.name s.table] ++ whereSpelling s.conditions ++
      orderSpelling s.orderBy ++ [.mark ';']
  | .count f =>
    [.word "SELECT", .word "COUNT", .mark '(', .mark '*', .mark ')', .word "FROM"] ++
      [.name f.table] ++ whereSpelling f.conditions ++ [.mark ';']
  | .change (.insert table values) =>
    [.word "INSERT", .word "INTO"] ++ [.name table] ++ valuesSpelling values ++ [.mark ';']
  | .change (.update filter values) =>
    [.word "UPDATE"] ++ [.name filter.table] ++ [.word "SET"] ++
      [.mark ','].intercalate (values.map Slot.spelling) ++ whereSpelling filter.conditions ++
      [.mark ';']
  | .change (.delete filter) =>
    [.word "DELETE", .word "FROM"] ++ [.name filter.table] ++ whereSpelling filter.conditions ++
      [.mark ';']

/-- No quote stands in a name. -/
def Unquoted (name : String) : Prop :=
  '"' ∉ name.toList

/-- The column of a slot has no quote in its name, and the parameter is made of the characters of
words. -/
structure Slot.Legible (s : Slot) : Prop where
  column : Unquoted s.column
  parameter : ∀ c ∈ s.parameter.toList, Scanner.isWordChar c = true

/-- The names of a column of a result have no quotes in them. -/
structure Output.Legible (o : Output) : Prop where
  column : Unquoted o.column
  label : Unquoted o.label

structure Filter.Legible (f : Filter) : Prop where
  table : Unquoted f.table
  conditions : ∀ s ∈ f.conditions, s.Legible

/-- A statement whose text can be read: its names and parameters are legible, and it has columns
where it must have some. -/
def Statement.Legible : Statement → Prop
  | .select s => s.toFilter.Legible ∧ s.outputs ≠ [] ∧ (∀ o ∈ s.outputs, o.Legible) ∧
      ∀ column ∈ s.orderBy, Unquoted column
  | .count f => f.Legible
  | .change (.insert table values) => Unquoted table ∧ ∀ s ∈ values, s.Legible
  | .change (.update filter values) =>
    filter.Legible ∧ values ≠ [] ∧ ∀ s ∈ values, s.Legible
  | .change (.delete filter) => filter.Legible

/-! ## 3. The text of a statement is scanned to its spelling -/

open Scanner

theorem Slot.Legible.scans {s : Slot} (h : s.Legible) : Scans s.text s.spelling := by
  have hequals : Ends " = " [.mark '='] := fun _ => rfl
  exact ((scans_quoted h.column).append_ends hequals rfl).append_scans
    (scans_placeholder h.parameter)

theorem Output.Legible.scans {o : Output} (h : o.Legible) : Scans o.text o.spelling := by
  have has : Ends " AS " [.word "AS"] := fun _ => rfl
  exact ((scans_quoted h.column).append_ends has rfl).append_scans (scans_quoted h.label)

theorem ends_comma : Ends ", " [.mark ','] := fun _ => rfl

theorem ends_semicolon : Ends ";" [.mark ';'] := fun rest => by
  cases rest <;> rfl

/-- Conditions may follow a text. -/
theorem Scanner.Scans.append_where {text : String} {before : List Token}
    (htext : Scans text before) {f : Filter} (h : ∀ s ∈ f.conditions, s.Legible) :
    Scans (text ++ f.whereText) (before ++ whereSpelling f.conditions) := by
  have hwhere : Ends " WHERE " [.word "WHERE"] := fun _ => rfl
  have hand : Ends " AND " [.word "AND"] := fun _ => rfl
  unfold Filter.whereText
  generalize f.conditions = conditions at h ⊢
  cases conditions with
  | nil => simpa [whereSpelling] using htext
  | cons first others =>
    have hconditions := Scans.intercalate hand rfl fun s hs => (h s hs).scans
    have hall := (htext.append_ends hwhere rfl).append_scans hconditions
    rwa [String.append_assoc, List.append_assoc] at hall

theorem ends_selection {s : Selection} (h : (Statement.select s).Legible) :
    Ends s.text (Statement.select s).spelling := by
  obtain ⟨hfilter, -, houtputs, horder⟩ := h
  have hselect : Ends "SELECT " [.word "SELECT"] := fun _ => rfl
  have hfrom : Ends " FROM " [.word "FROM"] := fun _ => rfl
  have hcolumns := Scans.intercalate ends_comma rfl fun o ho => (houtputs o ho).scans
  have hrows := (((hselect.append_scans hcolumns).append_ends hfrom rfl).append_scans
    (scans_quoted hfilter.table)).append_where hfilter.conditions
  unfold Selection.text Statement.spelling
  cases hcolumn : s.orderBy with
  | none =>
    have hall := hrows.append_ends ends_semicolon rfl
    simpa only [outputsText, hcolumn, orderSpelling, String.append_empty, List.append_nil]
      using hall
  | some column =>
    have horderBy : Ends " ORDER BY " [.word "ORDER", .word "BY"] := fun _ => rfl
    have hasc : Ends " ASC;" [.word "ASC", .mark ';'] := fun rest => by cases rest <;> rfl
    have hall := ((hrows.append_ends horderBy rfl).append_scans
      (scans_quoted (horder column hcolumn))).append_ends hasc rfl
    have hend : " ASC;" = " ASC" ++ ";" := rfl
    simpa only [outputsText, hcolumn, orderSpelling, hend, String.append_assoc, List.append_assoc,
      List.cons_append, List.nil_append] using hall

theorem ends_count {f : Filter} (h : f.Legible) :
    Ends f.countText (Statement.count f).spelling := by
  have hcount : Ends "SELECT COUNT(*) FROM " [.word "SELECT", .word "COUNT", .mark '(',
      .mark '*', .mark ')', .word "FROM"] := fun _ => rfl
  have hrows := (hcount.append_scans (scans_quoted h.table)).append_where h.conditions
  exact hrows.append_ends ends_semicolon rfl

/-- Values may follow a text, with the columns before the parameters. -/
theorem Scanner.Scans.append_values {text : String} {before : List Token}
    (htext : Scans text before) {values : List Slot} (hne : values ≠ [])
    (h : ∀ s ∈ values, s.Legible) :
    Ends (text ++ " (" ++ String.intercalate ", " (values.map fun s => quoted s.column) ++
        ") VALUES (" ++ String.intercalate ", " (values.map Slot.placeholder) ++ ");")
      (before ++ valuesSpelling values ++ [.mark ';']) := by
  have hopen : Ends " (" [.mark '('] := fun rest => by cases rest <;> rfl
  have hvalues : Ends ") VALUES (" [.mark ')', .word "VALUES", .mark '('] :=
    fun rest => by cases rest <;> rfl
  have hclose : Ends ");" [.mark ')', .mark ';'] := fun rest => by cases rest <;> rfl
  have hcolumns := Scans.intercalate ends_comma rfl fun s hs => scans_quoted (h s hs).column
  have hparameters := Scans.intercalate ends_comma rfl fun s hs =>
    scans_placeholder (h s hs).parameter
  have hall := ((((htext.append_ends hopen rfl).append_scans hcolumns).append_ends
    hvalues rfl).append_scans hparameters).append_ends hclose rfl
  rw [List.append_assoc, valuesSpelling_append hne]
  simpa only [List.append_assoc, List.cons_append, List.nil_append] using hall

theorem ends_insertion {table : String} {values : List Slot} (htable : Unquoted table)
    (h : ∀ s ∈ values, s.Legible) :
    Ends (Change.insert table values).text (Statement.change (.insert table values)).spelling := by
  have hinsert : Ends "INSERT INTO " [.word "INSERT", .word "INTO"] := fun _ => rfl
  have htable := hinsert.append_scans (scans_quoted htable)
  cases values with
  | nil =>
    have hdefault : Ends " DEFAULT VALUES;" [.word "DEFAULT", .word "VALUES", .mark ';'] :=
      fun rest => by cases rest <;> rfl
    exact htable.append_ends hdefault rfl
  | cons first others => exact htable.append_values (List.cons_ne_nil first others) h

theorem ends_update {filter : Filter} {values : List Slot} (hfilter : filter.Legible)
    (hvalues : ∀ s ∈ values, s.Legible) :
    Ends (Change.update filter values).text
      (Statement.change (.update filter values)).spelling := by
  have hupdate : Ends "UPDATE " [.word "UPDATE"] := fun _ => rfl
  have hset : Ends " SET " [.word "SET"] := fun _ => rfl
  have hassignments := Scans.intercalate ends_comma rfl fun s hs => (hvalues s hs).scans
  have hrows := (((hupdate.append_scans (scans_quoted hfilter.table)).append_ends hset
    rfl).append_scans hassignments).append_where hfilter.conditions
  exact hrows.append_ends ends_semicolon rfl

theorem ends_delete {filter : Filter} (h : filter.Legible) :
    Ends (Change.delete filter).text (Statement.change (.delete filter)).spelling := by
  have hdelete : Ends "DELETE FROM " [.word "DELETE", .word "FROM"] := fun _ => rfl
  have hrows := (hdelete.append_scans (scans_quoted h.table)).append_where h.conditions
  exact hrows.append_ends ends_semicolon rfl

/-- **A legible statement is scanned to its spelling.** -/
theorem tokens_text {s : Statement} (h : s.Legible) : tokens s.text = s.spelling := by
  have hends : Ends s.text s.spelling := by
    match s, h with
    | .select s, h => exact ends_selection h
    | .count f, h => exact ends_count h
    | .change (.insert table values), ⟨htable, hvalues⟩ =>
      rw [Statement.text_change]
      exact ends_insertion htable hvalues
    | .change (.update filter values), ⟨hfilter, _, hvalues⟩ =>
      rw [Statement.text_change]
      exact ends_update hfilter hvalues
    | .change (.delete f), h =>
      rw [Statement.text_change]
      exact ends_delete h
  have hscan : between.scan (s.text.toList ++ []) = s.spelling ++ [] := hends []
  rwa [List.append_nil, List.append_nil] at hscan

/-! ## 4. The spelling of a statement is read -/

namespace Statement

theorem take?_append (expected rest : List Token) :
    take? expected (expected ++ rest) = some rest := by
  simp [take?]

/-- A token that does not come next is not taken. -/
theorem take?_of_head? {first : Token} {others rest : List Token} (h : rest.head? ≠ some first) :
    take? (first :: others) rest = none := by
  cases rest with
  | nil => rfl
  | cons t rest =>
    have hne : first ≠ t := fun heq => h (by rw [heq]; rfl)
    simp [take?, List.isPrefixOf, hne]

/-- **Items are read as they are spelled**, if each item is and no separator follows the last. -/
theorem itemsWithin?_spelled {α : Type} {item? : List Token → Option (α × List Token)}
    {separator : Token} {spell : α → List Token} {items : List α} (hne : items ≠ [])
    (hitem : ∀ item ∈ items, ∀ rest, item? (spell item ++ rest) = some (item, rest))
    {rest : List Token} (hrest : rest.head? ≠ some separator) {bound : Nat}
    (hbound : items.length ≤ bound) :
    itemsWithin? item? separator bound ([separator].intercalate (items.map spell) ++ rest) =
      some (items, rest) := by
  induction items generalizing bound with
  | nil => exact absurd rfl hne
  | cons item items ih =>
    obtain ⟨hfirst, hothers⟩ := List.forall_mem_cons.mp hitem
    obtain ⟨bound, rfl⟩ : ∃ b, bound = b + 1 :=
      ⟨bound - 1, by simp only [List.length_cons] at hbound; omega⟩
    cases items with
    | nil =>
      simp only [List.map_cons, List.map_nil, List.intercalate_singleton, itemsWithin?]
      rw [hfirst]
      dsimp only
      rw [take?_of_head? hrest]
    | cons next items =>
      have hlength : (next :: items).length ≤ bound := by
        simp only [List.length_cons] at hbound ⊢
        omega
      simp only [List.map_cons, List.intercalate_cons_cons, List.append_assoc, itemsWithin?]
      rw [hfirst]
      dsimp only
      rw [take?_append]
      dsimp only
      rw [← List.map_cons, ih nofun hothers hlength]
      rfl

theorem length_le_intercalate {α : Type} (separator : Token) (spell : α → List Token)
    (items : List α) :
    items.length ≤ ([separator].intercalate (items.map spell)).length + 1 := by
  induction items with
  | nil => simp
  | cons item items ih =>
    cases items with
    | nil => simp
    | cons next items =>
      simp only [List.map_cons, List.intercalate_cons_cons, List.length_append,
        List.length_cons, List.length_nil] at ih ⊢
      omega

theorem items?_spelled {α : Type} {item? : List Token → Option (α × List Token)}
    {separator : Token} {spell : α → List Token} {items : List α} (hne : items ≠ [])
    (hitem : ∀ item ∈ items, ∀ rest, item? (spell item ++ rest) = some (item, rest))
    {rest : List Token} (hrest : rest.head? ≠ some separator) :
    items? item? separator ([separator].intercalate (items.map spell) ++ rest) =
      some (items, rest) := by
  refine itemsWithin?_spelled hne hitem hrest ?_
  have hlength := length_le_intercalate separator spell items
  rw [List.length_append]
  omega

theorem slot?_spelling (s : Slot) (rest : List Token) :
    slot? (s.spelling ++ rest) = some (s, rest) := by
  simp [slot?, Slot.spelling, name?, parameter?, take?]

theorem output?_spelling (o : Output) (rest : List Token) :
    output? (o.spelling ++ rest) = some (o, rest) := by
  simp [output?, Output.spelling, name?, take?]

/-- Conditions are read, if there are any, and otherwise nothing is. -/
theorem conditions?_spelling (conditions : List Slot) {rest : List Token}
    (hand : rest.head? ≠ some (.word "AND")) (hwhere : rest.head? ≠ some (.word "WHERE")) :
    conditions? (whereSpelling conditions ++ rest) = some (conditions, rest) := by
  cases conditions with
  | nil => simp only [whereSpelling, List.nil_append, conditions?, take?_of_head? hwhere]
  | cons first others =>
    have hitems : items? slot? (.word "AND") ([.word "AND"].intercalate
        ((first :: others).map Slot.spelling) ++ rest) = some (first :: others, rest) :=
      items?_spelled (List.cons_ne_nil _ _) (fun s _ rest => slot?_spelling s rest) hand
    simpa [conditions?, whereSpelling, take?] using hitems

theorem filter?_spelling (f : Filter) :
    filter? (Token.name f.table :: (whereSpelling f.conditions ++ [Token.mark ';'])) = some f := by
  have hconditions : conditions? (whereSpelling f.conditions ++ [.mark ';']) =
      some (f.conditions, [.mark ';']) := conditions?_spelling f.conditions (by simp) (by simp)
  simp [filter?, name?, hconditions]

theorem order?_spelling (orderBy : Option String) :
    order? (orderSpelling orderBy ++ [Token.mark ';']) = some (orderBy, [Token.mark ';']) := by
  cases orderBy with
  | none => rfl
  | some column => simp [order?, orderSpelling, take?, name?]

theorem select?_spelling {s : Selection} (houtputs : s.outputs ≠ []) :
    select? (Statement.select s).spelling = some (.select s) := by
  have hconditions : conditions? (whereSpelling s.conditions ++
      (orderSpelling s.orderBy ++ [.mark ';'])) =
        some (s.conditions, orderSpelling s.orderBy ++ [.mark ';']) := by
    refine conditions?_spelling s.conditions ?_ ?_ <;>
      cases s.orderBy <;> simp [orderSpelling]
  have hfrom : (Token.word "FROM" :: .name s.table :: (whereSpelling s.conditions ++
      (orderSpelling s.orderBy ++ [.mark ';']))).head? ≠ some (.mark ',') := by simp
  have houtputs := items?_spelled houtputs (fun o _ rest => output?_spelling o rest) hfrom
  simp [select?, spelling, take?, houtputs, name?, hconditions, order?_spelling]

theorem names?_spelled {α : Type} (column : α → String) {items : List α} (hne : items ≠ [])
    {rest : List Token} (hrest : rest.head? ≠ some (.mark ',')) :
    items? name? (.mark ',')
        ([Token.mark ','].intercalate (items.map fun item => [Token.name (column item)]) ++ rest) =
      some (items.map column, rest) := by
  have hnames : items.map column ≠ [] := by simpa using hne
  have hall := items?_spelled hnames (fun n _ rest => (rfl : name? ([.name n] ++ rest) = _)) hrest
  rwa [List.map_map] at hall

theorem parameters?_spelled {α : Type} (parameter : α → String) {items : List α}
    (hne : items ≠ []) {rest : List Token} (hrest : rest.head? ≠ some (.mark ',')) :
    items? parameter? (.mark ',')
        ([Token.mark ','].intercalate (items.map fun item => [Token.parameter (parameter item)]) ++
          rest) =
      some (items.map parameter, rest) := by
  have hnames : items.map parameter ≠ [] := by simpa using hne
  have hall := items?_spelled hnames
    (fun p _ rest => (rfl : parameter? ([.parameter p] ++ rest) = _)) hrest
  rwa [List.map_map] at hall

/-- The columns and the parameters of the values are read apart, and put together again. -/
theorem values?_spelling (values : List Slot) (rest : List Token) :
    values? (valuesSpelling values ++ rest) = some (values, rest) := by
  by_cases hne : values = []
  · subst hne
    simp [values?, valuesSpelling, take?]
  · have hclose : (Token.mark ')' :: rest).head? ≠ some (.mark ',') := by simp
    have hvalues : (Token.mark ')' :: .word "VALUES" :: .mark '(' ::
        ([Token.mark ','].intercalate (values.map fun s => [Token.parameter s.parameter]) ++
          .mark ')' :: rest)).head? ≠ some (.mark ',') := by simp
    have hparameters := parameters?_spelled Slot.parameter hne hclose
    have hcolumns := names?_spelled Slot.column hne hvalues
    have hzip : (values.map Slot.column).zipWith Slot.mk (values.map Slot.parameter) = values := by
      simp [List.zipWith_map]
    rw [valuesSpelling_append hne]
    simp [values?, take?, hcolumns, hparameters, hzip]

theorem update?_spelling {filter : Filter} {values : List Slot} (hvalues : values ≠ []) :
    update? (Statement.change (.update filter values)).spelling =
      some (.change (.update filter values)) := by
  have hconditions : conditions? (whereSpelling filter.conditions ++ [.mark ';']) =
      some (filter.conditions, [.mark ';']) := conditions?_spelling _ (by simp) (by simp)
  have hcomma : (whereSpelling filter.conditions ++ [Token.mark ';']).head? ≠
      some (.mark ',') := by
    cases filter.conditions <;> simp [whereSpelling]
  have hitems := items?_spelled hvalues (fun s _ rest => slot?_spelling s rest) hcomma
  simp [update?, spelling, take?, name?, hitems, hconditions]

/-- **The spelling of a legible statement is read as the statement.** -/
theorem ofTokens?_spelling {s : Statement} (h : s.Legible) : ofTokens? s.spelling = some s := by
  unfold ofTokens?
  match s, h with
  | .select s, ⟨_, houtputs, _⟩ =>
    rw [select?_spelling houtputs]
    rfl
  | .count f, h =>
    -- What stands after `SELECT` is read as a column first, and is none.
    simp [select?, count?, spelling, take?, items?, itemsWithin?, output?, name?, filter?_spelling]
  | .change (.insert table values), h =>
    simp [select?, count?, insert?, spelling, take?, name?, values?_spelling]
  | .change (.update filter values), ⟨_, hvalues, _⟩ =>
    rw [update?_spelling hvalues]
    simp [select?, count?, insert?, spelling, take?]
  | .change (.delete filter), h =>
    simp [select?, count?, insert?, update?, delete?, spelling, take?, filter?_spelling]

/-! ## 5. Reading -/

/-- **A statement is read back from its text.** -/
theorem read?_text {s : Statement} (h : s.Legible) : read? s.text = some s := by
  rw [read?, tokens_text h, ofTokens?_spelling h]

/-- **No two statements have the same text.** -/
theorem text_inj {s t : Statement} (hs : s.Legible) (ht : t.Legible) : s.text = t.text ↔ s = t := by
  constructor
  · intro h
    have hread := read?_text hs
    rw [h, read?_text ht] at hread
    exact (Option.some.inj hread).symm
  · exact congrArg text

/-! ## 6. Parameters -/

/-- The parameters of a statement, in the order of their places in its text. -/
def parameters : Statement → List String
  | .select s => s.conditions.map Slot.parameter
  | .count f => f.conditions.map Slot.parameter
  | .change (.insert _ values) => values.map Slot.parameter
  | .change (.update filter values) => (values ++ filter.conditions).map Slot.parameter
  | .change (.delete filter) => filter.conditions.map Slot.parameter

/-- Separators add no parameters to those of the items. -/
theorem filterMap_intercalate {α : Type} {separator : Token}
    (hseparator : separator.parameter? = none) (spell : α → List Token) (items : List α) :
    ([separator].intercalate (items.map spell)).filterMap Token.parameter? =
      items.flatMap fun item => (spell item).filterMap Token.parameter? := by
  induction items with
  | nil => rfl
  | cons item items ih =>
    cases items with
    | nil => simp
    | cons next items =>
      rw [List.map_cons] at ih
      simp only [List.map_cons, List.intercalate_cons_cons, List.filterMap_append, ih,
        List.filterMap_cons_none hseparator, List.filterMap_nil, List.append_nil, List.flatMap_cons]

theorem filterMap_slots {separator : Token} (hseparator : separator.parameter? = none)
    (slots : List Slot) :
    ([separator].intercalate (slots.map Slot.spelling)).filterMap Token.parameter? =
      slots.map Slot.parameter := by
  rw [filterMap_intercalate hseparator, List.map_eq_flatMap]
  rfl

theorem filterMap_whereSpelling (conditions : List Slot) :
    (whereSpelling conditions).filterMap Token.parameter? = conditions.map Slot.parameter := by
  cases conditions with
  | nil => rfl
  | cons first others => exact filterMap_slots rfl (first :: others)

theorem filterMap_orderSpelling (orderBy : Option String) :
    (orderSpelling orderBy).filterMap Token.parameter? = [] := by
  cases orderBy <;> rfl

theorem filterMap_valuesSpelling (values : List Slot) :
    (valuesSpelling values).filterMap Token.parameter? = values.map Slot.parameter := by
  by_cases hne : values = []
  · subst hne
    rfl
  · have hcolumns : ([Token.mark ','].intercalate (values.map fun s => [.name s.column])).filterMap
        Token.parameter? = [] := by
      rw [filterMap_intercalate rfl]
      exact List.flatMap_eq_nil_iff.mpr fun _ _ => rfl
    have hparameters : ([Token.mark ','].intercalate
        (values.map fun s => [.parameter s.parameter])).filterMap Token.parameter? =
          values.map Slot.parameter := by
      rw [filterMap_intercalate rfl, List.map_eq_flatMap]
      rfl
    rw [← List.append_nil (valuesSpelling values), valuesSpelling_append hne]
    simp [hcolumns, hparameters, List.filterMap_cons, Token.parameter?]

/-- **A text asks for the parameters of its statement**, each as often and in the same order. -/
theorem placeholders_text {s : Statement} (h : s.Legible) : placeholders s.text = s.parameters := by
  rw [placeholders, tokens_text h]
  match s with
  | .select s =>
    have houtputs : ([Token.mark ','].intercalate (s.outputs.map Output.spelling)).filterMap
        Token.parameter? = [] := by
      rw [filterMap_intercalate rfl]
      exact List.flatMap_eq_nil_iff.mpr fun _ _ => rfl
    simp [spelling, parameters, houtputs, filterMap_whereSpelling, filterMap_orderSpelling,
      List.filterMap_cons, Token.parameter?]
  | .count f =>
    simp [spelling, parameters, filterMap_whereSpelling, List.filterMap_cons, Token.parameter?]
  | .change (.insert table values) =>
    simp [spelling, parameters, filterMap_valuesSpelling, List.filterMap_cons, Token.parameter?]
  | .change (.update filter values) =>
    have hvalues := filterMap_slots (rfl : (Token.mark ',').parameter? = none) values
    simp [spelling, parameters, hvalues, filterMap_whereSpelling, List.filterMap_cons,
      Token.parameter?]
  | .change (.delete filter) =>
    simp [spelling, parameters, filterMap_whereSpelling, List.filterMap_cons, Token.parameter?]

end Statement

/-- A change is read back from its text. -/
theorem Change.read?_text {c : Change} (h : (Statement.change c).Legible) :
    Statement.read? c.text = some (.change c) := by
  rw [← Statement.text_change, Statement.read?_text h]

theorem Change.placeholders_text {c : Change} (h : (Statement.change c).Legible) :
    placeholders c.text = (Statement.change c).parameters := by
  rw [← Statement.text_change, Statement.placeholders_text h]

end EntityStore
