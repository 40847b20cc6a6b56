import EntityStore.Proofs.Demo.Parts
/-!
# Runs of the demonstration

The demonstration can be run again and again on one file.  Every run prints the same lines as the
first one, but for the numbers: the tables that earlier runs left behind have no rows, yet they
remember which numbers were given out.  What a run finds in its file is therefore settled by how
many there were before it (`LeftIn`), and each run leaves the same for the next one
(`run_file`, `leftIn_afterAll`).  It does not matter by which path a run finds the file.

Without a file nothing is left behind, and every run is a first one (`run_memory`).
-/

namespace EntityStore.Demo

variable {env : Environment} {directories : List (List Component)} {u : PersistenceUnit}
  {place : Place} {path : String} {file : List Component} {m : Nat}

/-! ## 1. One run -/

/-- What the `n`-th run on a file prints. -/
def transcript (n : Nat) : List String :=
  ["mimic_core version=0.1.0",
    s!"saved id=Some({3 * n - 2}) name=IU birth_year=1993",
    s!"saved id=Some({3 * n - 1}) name=IU birth_year=1995",
    s!"saved id=Some({3 * n}) name=Taeyeon birth_year=1989",
    "count=3",
    "find_by_name(IU)=2",
    s!"find_by_name_and_birth_year(IU,1995) id=Some({3 * n - 1})",
    "count_by_birth_year(1993)=1",
    "count_after_delete_all=0",
    s!"item id=Some({n}) name=blue jean",
    "find_by_name(black jean)=0",
    "find_by_name(blue jean)=1",
    "item_count_after_delete_by_id=0"]

/-- Behind the number a line says who was saved. -/
theorem savedLine_eq {name who : String} {birthYear : Int64}
    (h : ") name=" ++ (name ++ (" birth_year=" ++ Rendering.integer birthYear)) = who) (k : Nat) :
    savedLine k name birthYear = s!"saved id=Some({k}" ++ who := by
  rw [← h]
  show "saved id=Some(" ++ toString k ++ ") name=" ++ name ++ " birth_year=" ++
      Rendering.integer birthYear = "saved id=Some(" ++ toString k ++ _
  simp only [String.append_assoc]

theorem itemLine_eq (k : Nat) :
    itemLine k "blue jean" = s!"item id=Some({k}) name=blue jean" := by
  have hname : ") name=blue jean" = ") name=" ++ "blue jean" := by decide
  rw [hname]
  exact String.append_assoc ..

theorem transcript_succ (m : Nat) : peopleLines (3 * m) ++ itemLines m = transcript (m + 1) := by
  have hfirst : 3 * (m + 1) - 2 = 3 * m + 1 := by omega
  have hsecond : 3 * (m + 1) - 1 = 3 * m + 2 := by omega
  have hlines : savedLines (3 * m) cast =
      [s!"saved id=Some({3 * m + 1}) name=IU birth_year=1993",
        s!"saved id=Some({3 * m + 2}) name=IU birth_year=1995",
        s!"saved id=Some({3 * m + 3}) name=Taeyeon birth_year=1989"] := by
    rw [cast, savedLines, savedLines, savedLines, savedLines]
    rw [savedLine_eq (show _ = ") name=IU birth_year=1993" by decide),
      savedLine_eq (show _ = ") name=IU birth_year=1995" by decide),
      savedLine_eq (show _ = ") name=Taeyeon birth_year=1989" by decide)]
    rfl
  rw [transcript, hfirst, hsecond, peopleLines, hlines, itemLines, itemLine_eq]
  rfl

/-- A run that has chosen its unit comes to its end, and leaves behind what one run more leaves. -/
theorem run_of_chosen {arguments : List String}
    (hchosen : Ends (chooseUnit arguments) ⟨env, []⟩ fun name p => name = u.name ∧
      Stage directories u place (leftBy m) [] p)
    (hunit : Usable directories u place) (hroom : 3 * (m + 1) < 2 ^ 63) :
    ∃ p, run env arguments = ⟨none, transcript (m + 1), p.environment.restart⟩ ∧
      Stage directories u place (leftBy (m + 1)) (transcript (m + 1)) p := by
  have hscript : Ends (script arguments) ⟨env, []⟩ fun _ p =>
      Stage directories u place (leftBy (m + 1)) (transcript (m + 1)) p := by
    refine hchosen.bind ?_
    rintro _ _ ⟨rfl, h⟩
    refine (runPeople_ends hunit hroom h).bind fun _ _ h => ?_
    refine (runItems_ends hunit (by omega) h).mono fun _ _ h => ?_
    rwa [List.nil_append, transcript_succ] at h
  obtain ⟨⟨⟩, p, hrun, hstage⟩ := hscript
  refine ⟨p, ?_, hstage⟩
  rw [run, hrun, ← hstage.lines]

theorem defaultTimeout_le : PersistenceUnit.defaultTimeout ≤ Environment.largestTimeout := by
  decide

/-- The environment after runs, one after another. -/
def afterAll (env : Environment) (history : List (List String)) : Environment :=
  history.foldl (fun env arguments => (run env arguments).environment) env

theorem atRest_run (env : Environment) (arguments : List String) :
    (run env arguments).environment.AtRest := by
  unfold run
  split <;> exact Environment.atRest_restart _

theorem atRest_afterAll (h : env.AtRest) (history : List (List String)) :
    (afterAll env history).AtRest := by
  induction history generalizing env with
  | nil => exact h
  | cons arguments rest ih => exact ih (atRest_run env arguments)

/-! ## 2. Runs on a file -/

/-- The arguments of a run name a file by a path; there are other paths to it.  An address is no
path: it may stand for something else than the file of its name. -/
def OnFile (env : Environment) (file : List Component) (arguments : List String) : Prop :=
  ∃ path rest, arguments = path :: rest ∧ Path.isAddress path = false ∧
    env.placeOfPath path = .ok (.file file)

/-- An environment in which `m` runs have left their tables in a file. -/
structure LeftIn (start : Environment) (file : List Component) (m : Nat) (env : Environment) :
    Prop where
  atRest : env.AtRest
  directories : env.directories = start.directories
  store : env.storeAt (.file file) = leftBy m

theorem OnFile.congr {start : Environment} {arguments : List String}
    (h : OnFile start file arguments) (hsame : env.directories = start.directories) :
    OnFile env file arguments := by
  obtain ⟨path, rest, harguments, haddress, hplace⟩ := h
  exact ⟨path, rest, harguments, haddress, Environment.placeOfPath_congr hsame hplace⟩

/-- The unit of a file. -/
def fileUnit (path : String) : PersistenceUnit :=
  .new fileUnitName (.file path)

/-- Nothing is wrong with the unit of a file. -/
theorem validate_fileUnit (h : path ≠ "") : (fileUnit path).validate = .ok () := by
  have hname : fileUnitName.toList.all isBlank = false ∧
      fileUnitName.toList.all PersistenceUnit.isNameChar = true := by decide
  have hdefect : (fileUnit path).defect? = none := by
    simp [PersistenceUnit.defect?, fileUnit, PersistenceUnit.new, hname, h]
  rw [PersistenceUnit.validate, hdefect]

/-- The unit of a file is registered. -/
theorem chooseUnit_file (hrest : env.AtRest) (hplace : env.placeOfPath path = .ok (.file file))
    (hstore : env.storeAt (.file file) = leftBy m) (rest : List String) :
    Ends (chooseUnit (path :: rest)) ⟨env, []⟩ fun name p => name = (fileUnit path).name ∧
      Stage env.directories (fileUnit path) (.file file) (leftBy m) [] p := by
  have hpath := Environment.path_ne_of_file hplace
  obtain ⟨log, hregister⟩ : ∃ log, env.registerUnit (fileUnit path) =
      .ok ({ env with units := UnitRegistry.empty.enter (fileUnit path) }, log) := by
    rw [Environment.registerUnit, hrest.units, UnitRegistry.register, validate_fileUnit hpath]
    exact ⟨_, rfl⟩
  have hunit : PersistenceUnit.new fileUnitName (.file path) = fileUnit path := rfl
  refine ends_get.bind ?_
  rintro _ _ ⟨rfl, rfl⟩
  simp only [hunit, hregister]
  refine (ends_set _).bind ?_
  rintro _ _ rfl
  exact ends_pure ⟨rfl, ⟨_, _, rfl⟩, rfl, hstore, rfl⟩

/-- **The next run on a file does not fail**, and prints and leaves what is next. -/
theorem run_file {start : Environment} {arguments : List String} (h : LeftIn start file m env)
    (hfile : OnFile start file arguments) (hroom : 3 * (m + 1) < 2 ^ 63) :
    (run env arguments).failure = none ∧ (run env arguments).lines = transcript (m + 1) ∧
      LeftIn start file (m + 1) (run env arguments).environment := by
  obtain ⟨path, rest, rfl, -, hplace⟩ := hfile.congr h.directories
  have hunit : Usable env.directories (fileUnit path) (.file file) :=
    ⟨fun _ hsame => Environment.placeOfPath_congr hsame hplace, rfl, defaultTimeout_le⟩
  obtain ⟨p, hrun, hstage⟩ :=
    run_of_chosen (chooseUnit_file h.atRest hplace h.store rest) hunit hroom
  have hkept : p.environment.restart.storeAt (.file file) = leftBy (m + 1) := by
    rw [Environment.storeAt_restart (by rw [hstage.store]; rfl), hstage.store]
  have hdirectories : p.environment.restart.directories = start.directories :=
    hstage.directories.trans h.directories
  rw [hrun]
  exact ⟨rfl, rfl, Environment.atRest_restart _, hdirectories, hkept⟩

/-- Runs on a file leave their tables in it. -/
theorem leftIn_afterAll {start : Environment} {earlier : List (List String)}
    (h : LeftIn start file m env) (hearlier : ∀ arguments ∈ earlier, OnFile start file arguments)
    (hroom : 3 * (m + earlier.length) < 2 ^ 63) :
    LeftIn start file (m + earlier.length) (afterAll env earlier) := by
  induction earlier generalizing env m with
  | nil => exact h
  | cons arguments rest ih =>
    -- The run that comes first leaves what the others begin with.
    rw [List.length_cons] at hroom ⊢
    have hnext := (run_file h (hearlier arguments List.mem_cons_self) (by omega)).2.2
    have hlast := ih hnext (fun later hlater => hearlier later (List.mem_cons_of_mem _ hlater))
      (by omega)
    rwa [Nat.add_assoc, Nat.add_comm 1] at hlast

/-! ## 3. Runs without a file -/

/-- **A run without a file is a first one.** -/
theorem run_memory (h : env.AtRest) :
    (run env []).failure = none ∧ (run env []).lines = transcript 1 := by
  have hchosen : Ends (chooseUnit []) ⟨env, []⟩ fun name p =>
      name = PersistenceUnit.default.name ∧ Stage env.directories .default
        (.shared PersistenceUnit.default.sharedAddress) (leftBy 0) [] p := by
    refine ends_pure ⟨rfl, ⟨?_, rfl, h.storeAt_shared _, rfl⟩⟩
    rw [h.units]
    exact ⟨_, _, rfl⟩
  have hunit : Usable env.directories .default
      (.shared PersistenceUnit.default.sharedAddress) := ⟨fun _ _ => rfl, rfl, defaultTimeout_le⟩
  obtain ⟨p, hrun, -⟩ := run_of_chosen hchosen hunit (by decide)
  rw [hrun]
  exact ⟨rfl, rfl⟩

/-! ## 4. All runs -/

/-- The tables of people and of items are there, and have no rows. -/
def Emptied (st : Store) : Prop :=
  ∀ name ∈ ["person", "item"], (st.committed.table? name).map Table.rows = some []

theorem emptied_leftBy (m : Nat) : Emptied (leftBy (m + 1)) := by
  have hpeople : (leftBy (m + 1)).committed.table? "person" =
      some (peopleTable [] (3 * (m + 1))) := List.find?_cons_of_pos (Name.same_refl _)
  have hitem : (leftBy (m + 1)).committed.table? "item" = some (itemTable [] (m + 1)) := by
    refine (List.find?_cons_of_neg ?_).trans (List.find?_cons_of_pos (Name.same_refl _))
    rw [show Name.same (peopleTable [] (3 * (m + 1))).name "item" = false from
      (Name.same_comm _ _).trans (item_ne_people [] [] (m + 1) (3 * (m + 1)))]
    exact Bool.false_ne_true
  intro name hname
  rcases List.mem_cons.mp hname with rfl | hname
  · rw [hpeople]
    rfl
  · rw [List.mem_singleton.mp hname, hitem]
    rfl

/-- **The demonstration is repeatable.**  On a file that is missing at first, the `n`-th run does
not fail, prints the numbers `3 * n - 2`, `3 * n - 1` and `3 * n` of people and the number `n` of
the item and else the same as every other run, and leaves both tables without rows, as long as the
numbers can be given out.  A run without a file is like a first one, whatever ran before it. -/
theorem repeatable (hrest : env.AtRest) (hmissing : env.storeAt (.file file) = .empty) :
    (∀ (n : Nat) (earlier : List (List String)) (last : List String),
      (∀ arguments ∈ last :: earlier, OnFile env file arguments) →
      n = earlier.length + 1 → 3 * n < 2 ^ 63 →
      let result := run (afterAll env earlier) last
      result.failure = none ∧ result.lines = transcript n ∧
        Emptied (result.environment.storeAt (.file file))) ∧
    ∀ history : List (List String),
      let result := run (afterAll env history) []
      result.failure = none ∧ result.lines = transcript 1 := by
  refine ⟨?_, fun history => run_memory (atRest_afterAll hrest history)⟩
  rintro _ earlier last hfile rfl hroom
  obtain ⟨hlast, hearlier⟩ := List.forall_mem_cons.mp hfile
  have hbefore : LeftIn env file (0 + earlier.length) (afterAll env earlier) :=
    leftIn_afterAll ⟨hrest, rfl, hmissing⟩ hearlier (by omega)
  rw [Nat.zero_add] at hbefore
  obtain ⟨hdone, hlines, hleft⟩ := run_file hbefore hlast hroom
  refine ⟨hdone, hlines, ?_⟩
  rw [hleft.store]
  exact emptied_leftBy _

/-- The third run on a file in the root directory, to which two paths are given, and one without a
file after it. -/
theorem repeatable_in_root :
    let env : Environment := .empty [[.root]]
    let file : List Component := [.root, .named "demo.db"]
    let third := run (afterAll env [["/demo.db"], ["/./demo.db", "again"]]) ["/demo.db"]
    env.AtRest ∧ env.storeAt (.file file) = .empty ∧
      OnFile env file ["/demo.db"] ∧ OnFile env file ["/./demo.db", "again"] ∧
      third.failure = none ∧ third.lines = transcript 3 ∧
      Emptied (third.environment.storeAt (.file file)) ∧
      (run (afterAll env [["/demo.db"], ["/demo.db"]]) []).lines = transcript 1 := by
  have hplain : OnFile (.empty [[.root]]) [.root, .named "demo.db"] ["/demo.db"] :=
    ⟨_, _, rfl, by decide, by decide +kernel⟩
  have hdotted : OnFile (.empty [[.root]]) [.root, .named "demo.db"] ["/./demo.db", "again"] :=
    ⟨_, _, rfl, by decide, by decide +kernel⟩
  have hmissing : (Environment.empty [[.root]]).storeAt (.file [.root, .named "demo.db"]) =
      .empty := rfl
  obtain ⟨hfile, hmemory⟩ := repeatable (Environment.atRest_empty [[.root]]) hmissing
  obtain ⟨hdone, hlines, hemptied⟩ := hfile 3 [["/demo.db"], ["/./demo.db", "again"]] ["/demo.db"]
    (by simp [hplain, hdotted]) rfl (by decide)
  exact ⟨rfl, hmissing, hplain, hdotted, hdone, hlines, hemptied, (hmemory _).2⟩

end EntityStore.Demo
