/-
Bindings for one lookup are bindings that come last.

A request for a value can have bindings for this lookup only, laid over the others.  The command
makes one lookup and ends, so that it makes no difference whether they are given for this lookup
or after all others for good: laying one row of bindings over another one comes to collecting
both rows one after the other, and a lookup with further entries answers as a new tree does that
has them.  Only the log can tell, because a lookup with further entries empties the cache and
says so, and the tree is opened with fewer entries.

That two command lines make such requests takes no more than that the rest of the words is read
in the same way in both.
-/
import DottedConfig.Cli.Run
import DottedConfig.Proofs.Cli.Words
import DottedConfig.Proofs.SortedMap
import DottedConfig.Proofs.Tree.Isolation

namespace DottedConfig

theorem SortedMap.ofBindings_append (names extra : List Binding) :
    ofBindings (names ++ extra) = (ofBindings names).overlay (ofBindings extra) := by
  rw [ofBindings, List.map_append, ofList_append]
  rfl

namespace Cli

/-! ### Requests -/

namespace Request

/-- The request with the bindings for one lookup after all others. -/
def kept (request : Request) : Request :=
  { request with names := request.names ++ request.extra, extra := [] }

variable (request : Request) (disk : Disk)

theorem value_kept :
    (request.kept.value disk).result = (request.value disk).result := by
  have hkept : (request.kept.value disk).result = ((Tree.new request.root request.topLevel
      (request.namespaceOf.overlay (.ofBindings request.extra)) .yaml).get disk
        request.path).result := by
    show ((Tree.new request.root request.topLevel
      (.ofBindings (request.names ++ request.extra)) .yaml).get disk request.path).result = _
    rw [SortedMap.ofBindings_append]
    rfl
  rw [hkept, value]
  split
  · rename_i hempty
    rw [List.isEmpty_iff.mp hempty]
    rfl
  · exact (Tree.getWith_fresh request.tree disk request.path _).symm

/-- Nothing of the log is shown to who has not asked for more output. -/
theorem shown_quiet {request : Request} (h : request.verbosity = 0) (records : List Log.Record) :
    request.shown records = [] := by
  rw [shown, h, List.filter_eq_nil_iff.mpr, List.map_nil]
  intro record _
  cases hlevel : record.level <;> simp [Log.Level.verbosity]

/-- **A request comes to the same with its bindings for one lookup after all others.** -/
theorem get_kept : (request.kept.get disk).code = (request.get disk).code ∧
    (request.kept.get disk).output = (request.get disk).output ∧
    (request.verbosity = 0 → (request.kept.get disk).messages = (request.get disk).messages) := by
  have hshown : request.verbosity = 0 → ∀ records records' : List Log.Record,
      request.kept.shown records = request.shown records' := by
    intro h records records'
    rw [shown_quiet h]
    exact shown_quiet h records
  have hanswer := request.value_kept disk
  unfold get
  rw [show request.kept.format = request.format from rfl,
    show request.kept.default = request.default from rfl]
  cases Format.ofName? request.format with
  | none => exact ⟨rfl, rfl, fun h => congrArg (· ++ _) (hshown h _ _)⟩
  | some format =>
    generalize request.kept.value disk = kept, request.value disk = answer at hanswer
    obtain ⟨kept, _⟩ := kept
    obtain ⟨result, _⟩ := answer
    obtain rfl : kept = result := hanswer
    -- what the log says differs; the cases differ in what is printed besides it
    rcases kept with failure | value
    · cases request.default with
      | none => exact ⟨rfl, rfl, fun h => congrArg (· ++ _) (hshown h _ _)⟩
      | some text => exact ⟨rfl, rfl, fun h => hshown h _ _⟩
    · exact ⟨rfl, rfl, fun h => hshown h _ _⟩

end Request

/-! ### Words -/

/-- The reading with the bindings for one lookup after all others. -/
def Reading.kept : Reading → Reading
  | .request question => .request question.kept
  | reading => reading

/-- The words give no value to a setting, if they make sense. -/
def Command.Omits (command : Command) (setting : Setting) (words : List String) : Prop :=
  .nonsense ∉ command.items none words → valuesOf setting (command.items none words) = []

instance (command : Command) (setting : Setting) (words : List String) :
    Decidable (command.Omits setting words) :=
  inferInstanceAs (Decidable (_ → _))

/-- The words of a lookup: bindings that hold for every lookup, and after them more bindings, as
values of the option, between any other words. -/
def lookupWords (before names : List String) (option : String) (extra after : List String) :
    List String :=
  before ++ (given "-n" names ++ (given option extra ++ after))

variable {command : Command} {outer : Nat} {rootVariable : Option String}
  {words words' : List String} {items items' rest rest' : List Item}

namespace Draft

/-- The draft with the bindings for one lookup after all others. -/
def kept (draft : Draft) : Draft :=
  { draft with names := draft.names ++ draft.extra, extra := [] }

theorem eq_kept {draft draft' : Draft} (h : draft'.bare = draft.bare)
    (hnames : draft'.names = draft.names ++ draft.extra) (hextra : draft'.extra = []) :
    draft' = draft.kept := by
  obtain ⟨path, root, topLevel, names, extra, format, default, verbosity⟩ := draft
  obtain ⟨_, _, _, names', extra', _, _, _⟩ := draft'
  cases h
  cases hnames
  cases hextra
  rfl

theorem reading_kept (draft : Draft) : draft.kept.reading command outer rootVariable =
    (draft.reading command outer rootVariable).kept := by
  obtain ⟨path, root, topLevel, names, extra, format, default, verbosity⟩ := draft
  cases path with
  | none => rfl
  | some path =>
      by_cases hroot : ((root.or rootVariable).getD ".").isEmpty
      · simp only [reading, kept, hroot, if_true]
        rfl
      · simp only [reading, kept, hroot, if_false, Bool.false_eq_true]
        rfl

theorem kept_of_addAll_eq_error {draft : Draft} {reading : Reading}
    (h : draft.addAll items = .error reading) : reading.kept = reading := by
  rcases addAll_eq_error h with rfl | rfl
  · rfl
  · rfl

end Draft

/-- **Words are read alike if they say the same apart from where the bindings stand.** -/
theorem read_kept (hwords : command.items none words = items)
    (hwords' : command.items none words' = items')
    (hrow : items'.map Item.kept = items.map Item.kept)
    (hvalues : .nonsense ∉ items →
      valuesOf .names items' = valuesOf .names items ++ valuesOf .extra items ∧
        valuesOf .extra items' = []) :
    command.read outer rootVariable words' = (command.read outer rootVariable words).kept := by
  have hbare : (Draft.empty.addAll items').map Draft.bare =
      (Draft.empty.addAll items).map Draft.bare := by
    rw [← Draft.bare_addAll items' rfl, hrow, Draft.bare_addAll items rfl]
  cases hsaid : Draft.empty.addAll items with
  | error reading =>
      rw [hsaid] at hbare
      rw [read_of_error hwords hsaid, read_of_error hwords' (map_eq_error_iff.mp hbare),
        Draft.kept_of_addAll_eq_error hsaid]
  | ok draft =>
      rw [hsaid] at hbare
      obtain ⟨draft', hsaid', hbare⟩ := eq_ok_of_map hbare
      obtain ⟨hnames, hextra⟩ := hvalues (Draft.notMem_nonsense_of_addAll hsaid)
      obtain ⟨hdraftNames, hdraftExtra⟩ := Draft.bindings_of_addAll hsaid
      obtain ⟨hdraftNames', hdraftExtra'⟩ := Draft.bindings_of_addAll hsaid'
      have hdraft : draft' = draft.kept := by
        refine Draft.eq_kept hbare ?_ ?_
        · rw [hdraftNames', hdraftNames, hdraftExtra, bindingsOf, hnames, List.filterMap_append]
          rfl
        · rw [hdraftExtra', bindingsOf, hextra]
          rfl
      rw [hdraft] at hsaid'
      rw [read_of_ok hwords hsaid, read_of_ok hwords' hsaid', draft.reading_kept]

/-- Words are read alike if they say the same up to something that makes no sense after it. -/
theorem read_of_misuse (hwords : command.items none words = items ++ rest)
    (hwords' : command.items none words' = items ++ rest')
    (h : ∀ draft : Draft, draft.addAll rest = .error .misuse)
    (h' : ∀ draft : Draft, draft.addAll rest' = .error .misuse) :
    command.read outer rootVariable words' = (command.read outer rootVariable words).kept := by
  cases hsaid : Draft.empty.addAll items with
  | error reading =>
      have hstop : ∀ rest, Draft.empty.addAll (items ++ rest) = .error reading := by
        intro rest
        rw [Draft.addAll_append, hsaid]
        rfl
      rw [read_of_error hwords (hstop rest), read_of_error hwords' (hstop rest'),
        Draft.kept_of_addAll_eq_error hsaid]
  | ok draft =>
      have hstop : ∀ rest, (∀ draft : Draft, draft.addAll rest = .error .misuse) →
          Draft.empty.addAll (items ++ rest) = .error .misuse := by
        intro rest h
        rw [Draft.addAll_append, hsaid]
        exact h draft
      rw [read_of_error hwords (hstop rest h), read_of_error hwords' (hstop rest' h')]
      rfl

theorem awaits_names : Command.get.Awaits "-n" .names :=
  awaits_of_short (by decide +kernel : shape "-n" = .short ['n']) rfl

theorem awaits_extra : Command.get.Awaits "-x" .extra :=
  awaits_of_short (by decide +kernel : shape "-x" = .short ['x']) rfl

section

variable {before names extra after : List String} {option : String} {setting : Setting}

/-- A lookup says what its words and its bindings say. -/
theorem items_lookupWords
    (h : ∀ after, Command.get.items none (before ++ after) = items ++ Command.get.items none after)
    (hoption : Command.get.Awaits option setting) (names extra after : List String) :
    Command.get.items none (lookupWords before names option extra after) =
      items ++ (names.map Setting.names.taking ++
        (extra.map setting.taking ++ Command.get.items none after)) := by
  rw [lookupWords, h, items_given awaits_names, items_given hoption]

/-- A value is awaited where the bindings begin, and an option is none. -/
theorem items_lookupWords_of_pending {pending : Setting}
    (h : ∀ after, Command.get.items none (before ++ after) =
      items ++ Command.get.items (some pending) after)
    (hoption : Command.get.Awaits option setting) (hextra : extra ≠ [])
    (names after : List String) :
    ∃ rest, Command.get.items none (lookupWords before names option extra after) =
      items ++ .nonsense :: rest := by
  obtain ⟨text, texts, rfl⟩ := List.exists_cons_of_ne_nil hextra
  rw [lookupWords, h]
  cases names with
  | nil =>
      show ∃ rest, items ++ Command.get.items (some pending) (option :: _) = _
      rw [items_of_pending, Setting.taking, if_neg hoption.shape_ne]
      exact ⟨_, rfl⟩
  | cons name names =>
      show ∃ rest, items ++ Command.get.items (some pending) ("-n" :: _) = _
      rw [items_of_pending, Setting.taking, if_neg awaits_names.shape_ne]
      exact ⟨_, rfl⟩

/-- What a lookup says is the same under both options, apart from where the bindings go. -/
theorem map_kept_lookupWords (items rest : List Item) (names extra : List String) :
    (items ++ (names.map Setting.names.taking ++
        (extra.map Setting.names.taking ++ rest))).map Item.kept =
      (items ++ (names.map Setting.names.taking ++
        (extra.map Setting.extra.taking ++ rest))).map Item.kept := by
  simp only [List.map_append, List.map_map]
  congr 3
  refine List.map_congr_left fun text _ => ?_
  by_cases htext : shape text = .plain
  · simp [Setting.taking, Item.kept, htext]
  · simp [Setting.taking, Item.kept, htext]

/-- **The words of a lookup are read alike under both options.** -/
theorem read_lookupWords (hextra : extra ≠ []) (hbefore : Command.get.Omits .extra before)
    (hafter : Command.get.Omits .extra after) (hnames : Command.get.Omits .names after) :
    Command.get.read outer rootVariable (lookupWords before names "-n" extra after) =
      (Command.get.read outer rootVariable (lookupWords before names "-x" extra after)).kept := by
  cases (effect before none : Command.get.Effect none before) with
  | said items pending h =>
      cases pending with
      | none =>
          refine read_kept (items_lookupWords h awaits_extra names extra after)
            (items_lookupWords h awaits_names names extra after)
            (map_kept_lookupWords items _ names extra) fun hsense => ?_
          simp only [List.mem_append, not_or] at hsense
          have hsaid : Command.get.items none before = items := by
            have hnil := h []
            rw [List.append_nil] at hnil
            exact hnil.trans (List.append_nil items)
          have hitems : valuesOf .extra items = [] :=
            hsaid ▸ hbefore (hsaid.symm ▸ hsense.1)
          have hrestExtra : valuesOf .extra (Command.get.items none after) = [] :=
            hafter hsense.2.2.2
          have hrestNames : valuesOf .names (Command.get.items none after) = [] :=
            hnames hsense.2.2.2
          simp [valuesOf_append, valuesOf_taking, hitems, hrestExtra, hrestNames]
      | some pending =>
          obtain ⟨rest, hrest⟩ := items_lookupWords_of_pending h awaits_extra hextra names after
          obtain ⟨rest', hrest'⟩ := items_lookupWords_of_pending h awaits_names hextra names after
          exact read_of_misuse hrest hrest' (fun _ => rfl) fun _ => rfl
  | ended items h =>
      have hlength : ∀ option,
          1 < (given "-n" names ++ (given option extra ++ after)).length := by
        intro option
        obtain ⟨text, rest, rfl⟩ := List.exists_cons_of_ne_nil hextra
        simp only [given, List.flatMap_cons, List.length_append, List.length_cons]
        omega
      exact read_of_misuse (h _) (h _) (fun draft => draft.addAll_operands (hlength "-x"))
        fun draft => draft.addAll_operands (hlength "-n")

end

/-! ### Runs -/

theorem read_get (arguments : List String) :
    read ("get" :: arguments) rootVariable = Command.get.read 0 rootVariable arguments := rfl

/-- **Bindings for one lookup are bindings that come last.**  The code and the output are the
same whether the second row is given for the lookup or for good, and so is what goes to the error
stream unless more of the log was asked for. -/
theorem run_lookupWords (before names extra after : List String) (rootVariable : Option String)
    (disk : Disk) (hbefore : Command.get.Omits .extra before)
    (hafter : Command.get.Omits .extra after) (hnames : Command.get.Omits .names after) :
    let once := "get" :: lookupWords before names "-x" extra after
    let kept := "get" :: lookupWords before names "-n" extra after
    (run once rootVariable disk).code = (run kept rootVariable disk).code ∧
      (run once rootVariable disk).output = (run kept rootVariable disk).output ∧
      ∀ request, read once rootVariable = .request request → request.verbosity = 0 →
        (run once rootVariable disk).messages = (run kept rootVariable disk).messages := by
  intro once kept
  by_cases hextra : extra = []
  · -- no words give the second row in either way
    subst hextra
    exact ⟨rfl, rfl, fun _ _ _ => rfl⟩
  · have hread : read kept rootVariable = (read once rootVariable).kept := by
      rw [read_get, read_get]
      exact read_lookupWords hextra hbefore hafter hnames
    rw [run, run, hread]
    cases honce : read once rootVariable with
    | request request =>
        have hget : request.command = .get := command_of_read honce
        have hrun : (Reading.request request).run disk = request.get disk := by
          rw [Reading.run, Request.run, hget]
        have hkept : (Reading.request request).kept.run disk = request.kept.get disk := by
          rw [Reading.kept, Reading.run, Request.run, show request.kept.command = .get from hget]
        obtain ⟨hcode, houtput, hmessages⟩ := request.get_kept disk
        rw [hrun, hkept]
        refine ⟨hcode.symm, houtput.symm, fun _ h hquiet => ?_⟩
        cases h
        exact (hmessages hquiet).symm
    | version => exact ⟨rfl, rfl, nofun⟩
    | help => exact ⟨rfl, rfl, nofun⟩
    | misuse => exact ⟨rfl, rfl, nofun⟩

/-- The last binding of a name wins in both ways, with blanks around the name or without. -/
theorem run_lookupWords_of_greeting :
    let before := ["greet.message", "-r", "cfg"]
    let names := ["name=world", " name = moon"]
    let extra := ["name=sun", "name =you"]
    let after := ["-f", "json", "-d", "none"]
    let greeting : Disk := fun place =>
      if place = "cfg/greet.yaml" then some (.text "message: hello ${name}\n") else none
    let once := "get" :: lookupWords before names "-x" extra after
    let kept := "get" :: lookupWords before names "-n" extra after
    Command.get.Omits .extra before ∧ Command.get.Omits .extra after ∧
      Command.get.Omits .names after ∧
      (run once none greeting).code = 0 ∧ (run kept none greeting).code = 0 ∧
      (run kept none greeting).output = "\"hello you\"\n" ∧
      (run once none greeting).output = "\"hello you\"\n" ∧
      (run once none greeting).messages = (run kept none greeting).messages := by
  intro before names extra after greeting once kept
  have hbefore : Command.get.Omits .extra before := by decide +kernel
  have hafter : Command.get.Omits .extra after := by decide +kernel
  have hnames : Command.get.Omits .names after := by decide +kernel
  obtain ⟨hcode, houtput, hmessages⟩ :=
    run_lookupWords before names extra after none greeting hbefore hafter hnames
  have hzero : (run kept none greeting).code = 0 := by decide +kernel
  have hyou : (run kept none greeting).output = "\"hello you\"\n" := by decide +kernel
  refine ⟨hbefore, hafter, hnames, hcode.trans hzero, hzero, hyou, houtput.trans hyou, ?_⟩
  refine hmessages ⟨.get, "greet.message", "cfg", none, [⟨"name", "world"⟩, ⟨"name", " moon"⟩],
    [⟨"name", "sun"⟩, ⟨"name", "you"⟩], "json", some "none", 0⟩ ?_ rfl
  rfl

end Cli

end DottedConfig
