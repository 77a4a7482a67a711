import LinearProgram.Proofs.CommandLine.Outcome

/-!
# Arguments in items

What an argument means depends on the one before it: behind `--method` it is a value and no path,
even if it is the only argument that looks like one. Arguments are therefore looked at in items
(`Options.items`), and then order matters little. The last path and the last method count, and
options without a value are in force wherever they stand.

**One item after the other** (`Options.scanFrom_eq_foldlM`). An item that is not at fault is taken up
(`Options.Item.exists_read_eq_ok`), and the effects of several add up (`Options.Draft.Takes.append`),
so that what has been read in the end depends on three things only: the paths, the methods, and
which items there are. Items that are rearranged with their paths and methods in the old order are
read as before.

Main result: `CommandLine.run_reads_items`, for all arguments and on every console.
-/

namespace LinearProgram

namespace Options

/-! ## Items -/

/-- Arguments that are read together: `--method` with the argument after it, if there is one, or a
single argument. -/
inductive Item where
  | method (value : Option Text)
  | alone (argument : Text)
  deriving DecidableEq

namespace Item

/-- The arguments of an item. -/
def arguments : Item → List Text
  | .method none => [methodOption]
  | .method (some value) => [methodOption, value]
  | .alone argument => [argument]

/-- The item is at fault: its value is missing or is an option, or it is an unknown option. -/
def isFaulty : Item → Bool
  | .method none => true
  | .method (some value) => isOption value
  | .alone argument =>
    isOption argument && !([solveOption, strictOption, verboseOption].contains argument)

/-- The path that an item gives. -/
def path? : Item → Option Text
  | .method _ => none
  | .alone argument => if isOption argument then none else some argument

/-- The method that an item gives. -/
def method? : Item → Option Text
  | .method value => value
  | .alone _ => none

/-- What becomes of a draft with one more item. -/
def read (draft : Draft) : Item → Except Fault Draft
  | .method none => .error .missingMethod
  | .method (some value) =>
    if isOption value then .error .missingMethod else .ok { draft with method := value }
  | .alone argument =>
    if argument = solveOption then .ok { draft with solve := true }
    else if argument = strictOption then .ok { draft with strict := true }
    else if argument = verboseOption then .ok { draft with verbose := true }
    else if isOption argument then .error (.unknownOption argument)
    else .ok { draft with path := some argument }

end Item

/-- The items of arguments, from left to right. -/
def items : List Text → List Item
  | [] => []
  | argument :: rest =>
    if argument = methodOption then
      match rest with
      | [] => [.method none]
      | value :: rest => .method (some value) :: items rest
    else .alone argument :: items rest

variable {draft next final : Draft} {item : Item} {list list' : List Item}
variable {arguments : List Text} {options options' : Options}

theorem items_cons {argument : Text} (h : argument ≠ methodOption) (rest : List Text) :
    items (argument :: rest) = .alone argument :: items rest := by
  rw [items.eq_def]
  exact if_neg h

theorem items_method_cons (value : Text) (rest : List Text) :
    items (methodOption :: value :: rest) = .method (some value) :: items rest := by
  rw [items.eq_def]
  exact if_pos rfl

theorem flatMap_items (arguments : List Text) :
    (items arguments).flatMap Item.arguments = arguments := by
  fun_induction items arguments with
  | case1 => rfl
  | case2 => rfl
  | case3 value rest ih => simp [Item.arguments, ih]
  | case4 argument rest _ ih => simp [Item.arguments, ih]

/-- Items that are not at fault are the items of their arguments. -/
theorem items_flatMap (h : ∀ item ∈ list, item.isFaulty = false) :
    items (list.flatMap Item.arguments) = list := by
  induction list with
  | nil => rfl
  | cons item list ih =>
    rw [List.forall_mem_cons] at h
    rw [List.flatMap_cons]
    cases item with
    | method value =>
      cases value with
      | none => simp [Item.isFaulty] at h
      | some value => simp [Item.arguments, items_method_cons, ih h.2]
    | alone argument =>
      have hne : argument ≠ methodOption := by
        rintro rfl
        exact absurd h.1 (by decide)
      simp [Item.arguments, items_cons hne, ih h.2]

/-! ## Reading items -/

theorem foldlM_read_of_ok (h : item.read draft = .ok next) (list : List Item) :
    (item :: list).foldlM Item.read draft = list.foldlM Item.read next := by
  rw [List.foldlM_cons, h]
  rfl

theorem foldlM_read_of_error {fault : Fault} (h : item.read draft = .error fault)
    (list : List Item) : (item :: list).foldlM Item.read draft = .error fault := by
  rw [List.foldlM_cons, h]
  rfl

/-- Arguments are read item by item. -/
theorem scanFrom_eq_foldlM (draft : Draft) (arguments : List Text) :
    scanFrom draft arguments = (items arguments).foldlM Item.read draft := by
  fun_induction scanFrom draft arguments with
  | case1 => rfl
  | case2 draft rest ih =>
    rw [items_cons (by decide), ih]
    exact (foldlM_read_of_ok rfl _).symm
  | case3 draft rest _ ih =>
    rw [items_cons (by decide), ih]
    exact (foldlM_read_of_ok rfl _).symm
  | case4 draft rest _ _ ih =>
    rw [items_cons (by decide), ih]
    exact (foldlM_read_of_ok rfl _).symm
  | case5 => rfl
  | case6 draft value rest hvalue =>
    rw [items_method_cons]
    refine (foldlM_read_of_error ?_ _).symm
    exact if_pos hvalue
  | case7 draft value rest hvalue _ _ _ ih =>
    rw [items_method_cons, ih]
    refine (foldlM_read_of_ok ?_ _).symm
    exact if_neg hvalue
  | case8 draft argument rest hsolve hstrict hverbose hmethod hoption =>
    rw [items_cons hmethod]
    refine (foldlM_read_of_error ?_ _).symm
    simp [Item.read, hsolve, hstrict, hverbose, hoption]
  | case9 draft argument rest hsolve hstrict hverbose hmethod hoption ih =>
    rw [items_cons hmethod, ih]
    refine (foldlM_read_of_ok ?_ _).symm
    simp [Item.read, hsolve, hstrict, hverbose, hoption]

/-- What a draft is after more items. -/
structure Draft.Takes (draft : Draft) (list : List Item) (final : Draft) : Prop where
  path : final.path = (list.filterMap Item.path?).getLast?.or draft.path
  method : final.method = (list.filterMap Item.method?).getLast?.getD draft.method
  solve : final.solve = true ↔ draft.solve = true ∨ Item.alone solveOption ∈ list
  strict : final.strict = true ↔ draft.strict = true ∨ Item.alone strictOption ∈ list
  verbose : final.verbose = true ↔ draft.verbose = true ∨ Item.alone verboseOption ∈ list

theorem Draft.Takes.append (h : draft.Takes list next) (h' : next.Takes list' final) :
    draft.Takes (list ++ list') final where
  path := by
    rw [h'.path, h.path, List.filterMap_append, List.getLast?_append, Option.or_assoc]
  method := by
    rw [h'.method, h.method, List.filterMap_append, List.getLast?_append, Option.getD_or]
  solve := by rw [h'.solve, h.solve, List.mem_append, or_assoc]
  strict := by rw [h'.strict, h.strict, List.mem_append, or_assoc]
  verbose := by rw [h'.verbose, h.verbose, List.mem_append, or_assoc]

/-- **One item** that is not at fault is taken up. -/
theorem Item.exists_read_eq_ok (draft : Draft) (h : item.isFaulty = false) :
    ∃ next, item.read draft = .ok next ∧ draft.Takes [item] next := by
  cases item with
  | method value =>
    cases value with
    | none => simp [isFaulty] at h
    | some value =>
      refine ⟨{ draft with method := value }, ?_, ?_⟩
      · simpa [read, isFaulty] using h
      · constructor <;> simp [path?, method?]
  | alone argument =>
    by_cases hoption : isOption argument = true
    · -- Of the options, only the three without a value are not at fault.
      have hflag : argument = solveOption ∨ argument = strictOption ∨ argument = verboseOption := by
        simpa [isFaulty, hoption, ← or_iff_not_imp_left] using h
      have hdistinct : solveOption ≠ strictOption ∧ solveOption ≠ verboseOption ∧
          strictOption ≠ verboseOption := by decide
      rcases hflag with rfl | rfl | rfl
      · refine ⟨_, by rw [read, if_pos rfl], ?_⟩
        constructor <;> simp [path?, method?, hoption, hdistinct.1.symm, hdistinct.2.1.symm]
      · refine ⟨_, by rw [read, if_neg hdistinct.1.symm, if_pos rfl], ?_⟩
        constructor <;> simp [path?, method?, hoption, hdistinct, hdistinct.2.2.symm]
      · refine ⟨_, by rw [read, if_neg hdistinct.2.1.symm, if_neg hdistinct.2.2.symm, if_pos rfl],
          ?_⟩
        constructor <;> simp [path?, method?, hoption, hdistinct]
    · have hargument : isOption argument = false := by simpa using hoption
      have hne {option : Text} (h : isOption option = true) : option ≠ argument :=
        ne_of_isOption hargument h
      have hsolve : solveOption ≠ argument := hne (by decide)
      have hstrict : strictOption ≠ argument := hne (by decide)
      have hverbose : verboseOption ≠ argument := hne (by decide)
      refine ⟨{ draft with path := some argument }, ?_, ?_⟩
      · simp [read, hsolve.symm, hstrict.symm, hverbose.symm, hargument]
      · constructor <;> simp [path?, method?, hargument, hsolve, hstrict, hverbose]

theorem Item.exists_read_eq_error (draft : Draft) (h : item.isFaulty = true) :
    ∃ fault, item.read draft = .error fault := by
  cases item with
  | method value =>
    cases value with
    | none => exact ⟨_, rfl⟩
    | some value => exact ⟨.missingMethod, if_pos h⟩
  | alone argument =>
    obtain ⟨hoption, hflags⟩ : isOption argument = true ∧ argument ≠ solveOption ∧
        argument ≠ strictOption ∧ argument ≠ verboseOption := by simpa [isFaulty] using h
    exact ⟨.unknownOption argument, by simp [read, hoption, hflags]⟩

/-- **Items one after the other**: those that are not at fault are taken up. -/
theorem exists_foldlM_eq_ok (draft : Draft) (h : ∀ item ∈ list, item.isFaulty = false) :
    ∃ final, list.foldlM Item.read draft = .ok final ∧ draft.Takes list final := by
  induction list generalizing draft with
  | nil => exact ⟨draft, rfl, by constructor <;> simp⟩
  | cons item list ih =>
    rw [List.forall_mem_cons] at h
    obtain ⟨next, hnext, htakes⟩ := Item.exists_read_eq_ok draft h.1
    obtain ⟨final, hfinal, htakes'⟩ := ih next h.2
    exact ⟨final, (foldlM_read_of_ok hnext list).trans hfinal, htakes.append htakes'⟩

theorem exists_foldlM_eq_error (draft : Draft) (h : ∃ item ∈ list, item.isFaulty = true) :
    ∃ fault, list.foldlM Item.read draft = .error fault := by
  induction list generalizing draft with
  | nil => simp at h
  | cons item list ih =>
    cases hitem : item.isFaulty with
    | true =>
      obtain ⟨fault, hfault⟩ := Item.exists_read_eq_error draft hitem
      exact ⟨fault, foldlM_read_of_error hfault list⟩
    | false =>
      obtain ⟨next, hnext, -⟩ := Item.exists_read_eq_ok draft hitem
      obtain ⟨fault, hfault⟩ := ih next (by simpa [hitem] using h)
      exact ⟨fault, (foldlM_read_of_ok hnext list).trans hfault⟩

/-! ## All items -/

/-- Items that cannot be followed: one is at fault, or there is no path. -/
def Unusable (list : List Item) : Prop :=
  (∃ item ∈ list, item.isFaulty = true) ∨ list.filterMap Item.path? = []

/-- The options are those that the items ask for. -/
structure AskedFor (options : Options) (list : List Item) : Prop where
  path : (list.filterMap Item.path?).getLast? = some options.path
  method : options.method = (list.filterMap Item.method?).getLast?.getD "highs".toList
  solve : options.solve = true ↔ Item.alone solveOption ∈ list
  strict : options.strict = true ↔ Item.alone strictOption ∈ list
  verbose : options.verbose = true ↔ Item.alone verboseOption ∈ list

theorem forall_of_not_unusable (h : ¬Unusable list) :
    (∀ item ∈ list, item.isFaulty = false) ∧ list.filterMap Item.path? ≠ [] := by
  simpa [Unusable, not_or] using h

theorem exists_scan_eq_error (h : Unusable (items arguments)) :
    ∃ fault, scan arguments = .error fault := by
  by_cases hfaulty : ∃ item ∈ items arguments, item.isFaulty = true
  · obtain ⟨fault, hfault⟩ := exists_foldlM_eq_error {} hfaulty
    exact ⟨fault, by rw [scan, scanFrom_eq_foldlM, hfault]⟩
  · have hpath := h.resolve_left hfaulty
    have hsound : ∀ item ∈ items arguments, item.isFaulty = false := by simpa using hfaulty
    obtain ⟨final, hfinal, htakes⟩ := exists_foldlM_eq_ok {} hsound
    have hnone : final.path = none := by simp [htakes.path, hpath]
    exact ⟨.missingPath, by rw [scan, scanFrom_eq_foldlM, hfinal]; simp only [hnone]⟩

theorem exists_scan_eq_ok (h : ¬Unusable (items arguments)) :
    ∃ options, scan arguments = .ok options ∧ options.AskedFor (items arguments) := by
  obtain ⟨hsound, hpath⟩ := forall_of_not_unusable h
  obtain ⟨final, hfinal, htakes⟩ := exists_foldlM_eq_ok {} hsound
  obtain ⟨path, hlast⟩ : ∃ path, ((items arguments).filterMap Item.path?).getLast? = some path :=
    ⟨_, List.getLast?_eq_some_getLast hpath⟩
  have hsome : final.path = some path := by simp [htakes.path, hlast]
  refine ⟨⟨path, final.solve, final.strict, final.verbose, final.method⟩, ?_, ?_⟩
  · rw [scan, scanFrom_eq_foldlM, hfinal]
    simp only [hsome]
  · exact ⟨hlast, htakes.method, by simpa using htakes.solve, by simpa using htakes.strict,
      by simpa using htakes.verbose⟩

/-- **Rearranged items** ask for the same if paths and methods are in the same order. -/
theorem AskedFor.eq_of_perm (h : options.AskedFor list) (h' : options'.AskedFor list')
    (hperm : list'.Perm list)
    (hpaths : list'.filterMap Item.path? = list.filterMap Item.path?)
    (hmethods : list'.filterMap Item.method? = list.filterMap Item.method?) :
    options' = options := by
  have hpath : options'.path = options.path := by
    have := h'.path
    rw [hpaths, h.path, Option.some.injEq] at this
    exact this.symm
  have hmethod : options'.method = options.method := by rw [h'.method, h.method, hmethods]
  have hsolve : options'.solve = options.solve := by
    rw [Bool.eq_iff_iff, h'.solve, h.solve, hperm.mem_iff]
  have hstrict : options'.strict = options.strict := by
    rw [Bool.eq_iff_iff, h'.strict, h.strict, hperm.mem_iff]
  have hverbose : options'.verbose = options.verbose := by
    rw [Bool.eq_iff_iff, h'.verbose, h.verbose, hperm.mem_iff]
  cases options
  cases options'
  simp_all

theorem Unusable.of_perm (hperm : list'.Perm list) (h : Unusable list') : Unusable list := by
  rcases h with ⟨item, hitem, hfaulty⟩ | hpath
  · exact Or.inl ⟨item, hperm.mem_iff.1 hitem, hfaulty⟩
  · have hpaths := hperm.filterMap Item.path?
    rw [hpath] at hpaths
    exact Or.inr hpaths.nil_eq.symm

end Options

/-! ## Runs -/

namespace CommandLine

open Options

variable {console : Console} {arguments : List Text} {options : Options}

/-- The arguments are refused: a run prints something and ends with status 2, and all that it does
is the same in every world. -/
def Refused (console : Console) (arguments : List Text) : Prop :=
  ∃ printed : Except Markup.Fault (List Text), ∀ (solver : Solver) (world : World),
    runUsing solver console world arguments = printed.map fun lines => ⟨2, lines, []⟩

theorem refused_iff : Refused console arguments ↔ Unusable (items arguments) := by
  constructor
  · rintro ⟨printed, hprinted⟩
    by_contra h
    obtain ⟨options, hscan, -⟩ := exists_scan_eq_ok h
    let world : World := ⟨[], [], fun _ => .missing⟩
    obtain ⟨outcome, houtcome, hstatus⟩ := exists_runWith exactSolver console world options
    have hrun := hprinted exactSolver world
    rw [runUsing_of_scan hscan, houtcome] at hrun
    obtain ⟨lines, -, rfl⟩ := map_eq_ok_iff.1 hrun.symm
    simp at hstatus
  · intro h
    obtain ⟨fault, hfault⟩ := exists_scan_eq_error h
    exact ⟨refusal console fault, fun solver world => runUsing_of_fault hfault solver console world⟩

/-- **Arguments are read in items.** They are refused exactly when an item is at fault or no item
is a path. Otherwise a run is one with the options that the items ask for, and rearranging the
items changes nothing as long as paths and methods keep their order. -/
theorem run_reads_items (console : Console) (arguments : List Text) :
    (items arguments).flatMap Item.arguments = arguments ∧
    (Refused console arguments ↔ Unusable (items arguments)) ∧
    (¬Unusable (items arguments) → ∃ options : Options, options.AskedFor (items arguments) ∧
      ∀ solver world,
        runUsing solver console world arguments = runWith solver console world options) ∧
    (¬Unusable (items arguments) → ∀ list : List Item, list.Perm (items arguments) →
      list.filterMap Item.path? = (items arguments).filterMap Item.path? →
      list.filterMap Item.method? = (items arguments).filterMap Item.method? →
      ∀ solver world, runUsing solver console world (list.flatMap Item.arguments) =
        runUsing solver console world arguments) := by
  refine ⟨flatMap_items arguments, refused_iff, fun h => ?_, fun h list hperm hpaths hmethods => ?_⟩
  · obtain ⟨options, hscan, hoptions⟩ := exists_scan_eq_ok h
    exact ⟨options, hoptions, fun solver world => runUsing_of_scan hscan solver console world⟩
  · have hlist : ¬Unusable list := fun hbad => h (hbad.of_perm hperm)
    have hitems : items (list.flatMap Item.arguments) = list :=
      items_flatMap (forall_of_not_unusable hlist).1
    obtain ⟨options, hscan, hoptions⟩ := exists_scan_eq_ok h
    obtain ⟨options', hscan', hoptions'⟩ :=
      exists_scan_eq_ok (show ¬Unusable (items (list.flatMap Item.arguments)) by rwa [hitems])
    rw [hitems] at hoptions'
    obtain rfl := hoptions.eq_of_perm hoptions' hperm hpaths hmethods
    intro solver world
    rw [runUsing_of_scan hscan, runUsing_of_scan hscan']

/-- Two methods, of which the first looks like a path, and two paths. -/
def twoMethods : List Text :=
  ["--method".toList, "plan.lp".toList, "--solve".toList, "first.lp".toList, "--method".toList,
    "highs-ds".toList, "second.lp".toList]

/-- The same, with both paths before the methods and the option last. -/
def twoMethodsRearranged : List Text :=
  ["first.lp".toList, "second.lp".toList, "--method".toList, "plan.lp".toList, "--method".toList,
    "highs-ds".toList, "--solve".toList]

theorem run_reads_items_twoMethods :
    ¬Refused Console.wide twoMethods ∧
    (∃ options : Options, options.path = "second.lp".toList ∧ options.method = "highs-ds".toList ∧
      options.solve = true ∧ options.strict = false ∧
      ∀ solver world,
        runUsing solver Console.wide world twoMethods = runWith solver Console.wide world options) ∧
    (∀ solver world, runUsing solver Console.wide world twoMethodsRearranged =
      runUsing solver Console.wide world twoMethods) ∧
    Refused Console.wide ["--method".toList, "plan.lp".toList] := by
  have husable : ¬Unusable (items twoMethods) := by
    rw [Unusable]
    decide
  have hbad : Unusable (items ["--method".toList, "plan.lp".toList]) := by
    rw [Unusable]
    decide
  obtain ⟨-, hrefused, hread, hrearranged⟩ := run_reads_items Console.wide twoMethods
  obtain ⟨-, hrefused', -, -⟩ :=
    run_reads_items Console.wide ["--method".toList, "plan.lp".toList]
  refine ⟨fun h => husable (hrefused.1 h), ?_, ?_, hrefused'.2 hbad⟩
  · obtain ⟨options, hoptions, hrun⟩ := hread husable
    have hlast : ((items twoMethods).filterMap Item.path?).getLast? =
        some "second.lp".toList := by decide
    have hpath : options.path = "second.lp".toList :=
      Option.some.inj (hoptions.path.symm.trans hlast)
    have hstrict : ¬options.strict = true := by
      rw [hoptions.strict]
      decide
    exact ⟨options, hpath, hoptions.method, hoptions.solve.2 (by decide), by simpa using hstrict,
      hrun⟩
  · have hperm : (items twoMethodsRearranged).Perm (items twoMethods) := by decide
    have := hrearranged husable _ hperm (by decide) (by decide)
    rwa [flatMap_items] at this

end CommandLine

end LinearProgram
