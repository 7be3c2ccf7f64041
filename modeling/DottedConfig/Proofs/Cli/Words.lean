/-
How the words after a subcommand are read.

They are read one after the other, and all that a word leaves to those after it is whether an
option still waits for its value.  So the words up to some place settle how the rest is read,
in one of two ways: as it would be read on its own or as the value of an option and what
follows that, or as operands only.  `Effect` has one case for each, and `effect` is by induction
on the words.

What is said goes into a draft, one item after the other, until one ends the reading.  A draft
keeps bindings in two rows, and nothing else looks at them.  So which of the rows a binding goes
to changes neither where the reading ends nor what else is in the draft (`bare_addAll`), and what
is in the rows can be told from the items alone (`bindings_of_addAll`).
-/
import DottedConfig.Cli.Arguments
import DottedConfig.Proofs.Except
import Mathlib.Data.List.Basic

namespace DottedConfig.Cli

/-! ### Words before other words -/

/-- What some words do to the words after them. -/
inductive Command.Effect (command : Command) (pending : Option Setting) (words : List String) :
    Prop where
  /-- They say something, and perhaps an option waits for its value after them. -/
  | said (items : List Item) (pending' : Option Setting) (h : ∀ after,
      command.items pending (words ++ after) = items ++ command.items pending' after)
  /-- They say something and end the options. -/
  | ended (items : List Item) (h : ∀ after,
      command.items pending (words ++ after) = items ++ after.map .operand)

variable {command : Command}

/-- An option that waits for its value takes the next word for it, or there is none. -/
def Setting.taking (setting : Setting) (word : String) : Item :=
  if shape word = .plain then .setting setting word else .nonsense

theorem items_of_pending (setting : Setting) (word : String) (after : List String) :
    command.items (some setting) (word :: after) =
      setting.taking word :: command.items none after := by
  rw [Command.items.eq_def, Setting.taking]
  cases hshape : shape word <;> simp [hshape]

/-- **What one word does.** -/
theorem effect_word (pending : Option Setting) (word : String) : command.Effect pending [word] := by
  cases pending with
  | some setting =>
      exact .said [setting.taking word] none fun after => items_of_pending setting word after
  | none =>
      cases hword : shape word with
      | plain =>
          refine .said [.operand word] none fun after => ?_
          rw [List.singleton_append, Command.items.eq_def]
          simp only [hword, List.singleton_append]
      | endOfOptions =>
          refine .ended [] fun after => ?_
          rw [List.singleton_append, Command.items.eq_def]
          simp only [hword, List.nil_append]
      | long name value =>
          refine .said (command.long name value).1 (command.long name value).2 fun after => ?_
          rw [List.singleton_append, Command.items.eq_def]
          simp only [hword]
      | short letters =>
          refine .said (command.short letters).1 (command.short letters).2 fun after => ?_
          rw [List.singleton_append, Command.items.eq_def]
          simp only [hword]

/-- What comes after a word that says something comes after what it says. -/
theorem Command.Effect.cons {pending pending' : Option Setting} {word : String} {items : List Item}
    {words : List String} (hword : ∀ after,
      command.items pending (word :: after) = items ++ command.items pending' after)
    (h : command.Effect pending' words) : command.Effect pending (word :: words) := by
  cases h with
  | said items' pending'' h =>
      refine .said (items ++ items') pending'' fun after => ?_
      rw [List.cons_append, hword, h, List.append_assoc]
  | ended items' h =>
      refine .ended (items ++ items') fun after => ?_
      rw [List.cons_append, hword, h, List.append_assoc]

/-- **What some words do.** -/
theorem effect (words : List String) (pending : Option Setting) :
    command.Effect pending words := by
  induction words generalizing pending with
  | nil => exact .said [] pending fun after => rfl
  | cons word rest ih =>
      cases (effect_word pending word : command.Effect pending [word]) with
      | said items pending' h => exact .cons h (ih pending')
      | ended items h =>
          refine .ended (items ++ rest.map .operand) fun after => ?_
          rw [List.cons_append, ← List.singleton_append, h, List.map_append, List.append_assoc]

/-! ### A row of one option -/

/-- The words that give these values to an option. -/
def given (option : String) (texts : List String) : List String :=
  texts.flatMap fun text => [option, text]

/-- An option after which a value of the setting is awaited. -/
structure Command.Awaits (command : Command) (option : String) (setting : Setting) : Prop where
  /-- It is not a value itself. -/
  shape_ne : shape option ≠ .plain
  /-- It says nothing but that. -/
  items_cons : ∀ after, command.items none (option :: after) = command.items (some setting) after

theorem awaits_of_short {option : String} {letters : List Char} {setting : Setting}
    (hoption : shape option = .short letters)
    (hletters : command.short letters = ([], some setting)) :
    command.Awaits option setting where
  shape_ne := by rw [hoption]; nofun
  items_cons after := by
    rw [Command.items.eq_def]
    simp only [hoption, hletters, List.nil_append]

theorem items_given {option : String} {setting : Setting} (hoption : command.Awaits option setting)
    (texts after : List String) :
    command.items none (given option texts ++ after) =
      texts.map setting.taking ++ command.items none after := by
  induction texts with
  | nil => rfl
  | cons text rest ih =>
      show command.items none (option :: text :: (given option rest ++ after)) = _
      rw [hoption.items_cons, items_of_pending, ih]
      rfl

/-! ### The values of a setting -/

/-- The values given for a setting. -/
def valuesOf (setting : Setting) (items : List Item) : List String :=
  items.filterMap fun
    | .setting s value => if s = setting then some value else none
    | _ => none

theorem valuesOf_append (setting : Setting) (items items' : List Item) :
    valuesOf setting (items ++ items') = valuesOf setting items ++ valuesOf setting items' :=
  List.filterMap_append

theorem valuesOf_taking (setting other : Setting) (texts : List String) :
    valuesOf setting (texts.map other.taking) =
      if other = setting then texts.filter (shape · = .plain) else [] := by
  rw [valuesOf, List.filterMap_map]
  by_cases hother : other = setting
  · rw [if_pos hother, ← List.filterMap_eq_filter]
    refine List.filterMap_congr fun text _ => ?_
    by_cases htext : shape text = .plain <;>
      simp [Function.comp, Setting.taking, Option.guard, htext, hother]
  · rw [if_neg hother, List.filterMap_eq_nil_iff]
    intro text _
    by_cases htext : shape text = .plain <;>
      simp [Function.comp, Setting.taking, htext, hother]

/-- The bindings that the values of a setting spell. -/
def bindingsOf (setting : Setting) (items : List Item) : List Binding :=
  (valuesOf setting items).filterMap fun text => (Binding.parse text).toOption

theorem bindingsOf_append (setting : Setting) (items items' : List Item) :
    bindingsOf setting (items ++ items') = bindingsOf setting items ++ bindingsOf setting items' := by
  rw [bindingsOf, valuesOf_append, List.filterMap_append]
  rfl

theorem eq_of_bound {said said' : List Binding} {text : String} (h : bound said text = .ok said') :
    said' = said ++ [text].filterMap fun text => (Binding.parse text).toOption := by
  rw [bound] at h
  cases hparse : Binding.parse text with
  | error fault => simp [hparse] at h
  | ok binding =>
      simp only [hparse, Except.ok.injEq] at h
      simp [← h, hparse, Except.toOption]

/-! ### Drafts -/

/-- The item with a binding for one lookup as one for all. -/
def Item.kept : Item → Item
  | .setting .extra value => .setting .names value
  | item => item

namespace Draft

variable {draft draft' : Draft} {items : List Item} {reading : Reading}

/-- The draft without its bindings. -/
def bare (draft : Draft) : Draft := { draft with names := [], extra := [] }

theorem addAll_cons (draft : Draft) (item : Item) (items : List Item) :
    draft.addAll (item :: items) = draft.add item >>= (·.addAll items) := List.foldlM_cons

theorem addAll_append (draft : Draft) (items items' : List Item) :
    draft.addAll (items ++ items') = draft.addAll items >>= (·.addAll items') :=
  List.foldlM_append

/-- One item does the same to drafts that differ in their bindings, and a binding does it in
either row. -/
theorem bare_add (h : draft.bare = draft'.bare) (item : Item) :
    (draft'.add item.kept).map bare = (draft.add item).map bare := by
  obtain ⟨path, root, topLevel, names, extra, format, default, verbosity⟩ := draft
  obtain ⟨_, _, _, names', extra', _, _, _⟩ := draft'
  cases h
  cases item with
  | flag flag => cases flag <;> rfl
  | operand word => cases path <;> rfl
  | nonsense => rfl
  | setting setting value =>
      cases setting with
      | root =>
          simp only [Item.kept, add, set]
          cases value.isEmpty <;> cases root <;> rfl
      | topLevel => cases topLevel <;> rfl
      | format => cases format <;> rfl
      | default => cases default <;> rfl
      | names =>
          simp only [Item.kept, add, set, bound]
          cases Binding.parse value <;> rfl
      | extra =>
          simp only [Item.kept, add, set, bound]
          cases Binding.parse value <;> rfl

/-- **Where the reading ends, and what a draft holds besides bindings, does not depend on which
row the bindings go to.** -/
theorem bare_addAll : ∀ (items : List Item) {draft draft' : Draft}, draft.bare = draft'.bare →
    (draft'.addAll (items.map Item.kept)).map bare = (draft.addAll items).map bare := by
  intro items
  induction items with
  | nil => intro draft draft' h; exact congrArg Except.ok h.symm
  | cons item rest ih =>
      intro draft draft' h
      have hstep : (draft'.add item.kept).map bare = (draft.add item).map bare := bare_add h item
      rw [List.map_cons, addAll_cons, addAll_cons]
      cases hadd : draft.add item with
      | error reading =>
          rw [hadd] at hstep
          rw [map_eq_error_iff.mp hstep]
          rfl
      | ok next =>
          rw [hadd] at hstep
          obtain ⟨next', hadd', hnext⟩ := eq_ok_of_map hstep
          rw [hadd']
          exact ih hnext.symm

/-- The bindings of a draft are those that it had and those that were added to it. -/
theorem bindings_of_add {item : Item} (h : draft.add item = .ok draft') :
    draft'.names = draft.names ++ bindingsOf .names [item] ∧
      draft'.extra = draft.extra ++ bindingsOf .extra [item] := by
  have hnames : draft.names = draft.names ++ [] := (List.append_nil _).symm
  have hextra : draft.extra = draft.extra ++ [] := (List.append_nil _).symm
  cases item with
  | nonsense => cases h
  | flag flag =>
      cases flag with
      | verbose =>
          cases h
          exact ⟨hnames, hextra⟩
      | help => cases h
  | operand word =>
      obtain ⟨said, -, rfl⟩ := eq_ok_of_map h
      exact ⟨hnames, hextra⟩
  | setting setting value =>
      cases setting with
      | root =>
          rw [add, set] at h
          split at h
          · cases h
          · obtain ⟨said, -, rfl⟩ := eq_ok_of_map h
            exact ⟨hnames, hextra⟩
      | names =>
          obtain ⟨said, hsaid, rfl⟩ := eq_ok_of_map h
          exact ⟨eq_of_bound hsaid, hextra⟩
      | extra =>
          obtain ⟨said, hsaid, rfl⟩ := eq_ok_of_map h
          exact ⟨hnames, eq_of_bound hsaid⟩
      | _ =>
          obtain ⟨said, -, rfl⟩ := eq_ok_of_map h
          exact ⟨hnames, hextra⟩

theorem bindings_of_addAll (h : draft.addAll items = .ok draft') :
    draft'.names = draft.names ++ bindingsOf .names items ∧
      draft'.extra = draft.extra ++ bindingsOf .extra items := by
  induction items generalizing draft with
  | nil =>
      cases h
      exact ⟨(List.append_nil _).symm, (List.append_nil _).symm⟩
  | cons item rest ih =>
      rw [addAll_cons] at h
      obtain ⟨next, hnext, hrest⟩ := eq_ok_of_bind h
      obtain ⟨hnames, hextra⟩ := bindings_of_add hnext
      rw [← List.singleton_append, bindingsOf_append, bindingsOf_append, ← List.append_assoc,
        ← List.append_assoc, ← hnames, ← hextra]
      exact ih hrest

/-- Nothing goes into a draft but what makes sense. -/
theorem notMem_nonsense_of_addAll (h : draft.addAll items = .ok draft') : .nonsense ∉ items := by
  induction items generalizing draft with
  | nil => nofun
  | cons item rest ih =>
      rw [addAll_cons] at h
      obtain ⟨next, hnext, hrest⟩ := eq_ok_of_bind h
      refine List.not_mem_cons_of_ne_of_not_mem (fun heq => ?_) (ih hrest)
      subst heq
      cases hnext

/-! ### What ends the reading -/

theorem once_eq_error {said : Option String} {value : String}
    (h : once said value = .error reading) : reading = .misuse := by
  rw [once] at h
  split at h
  · exact (Except.error.inj h).symm
  · cases h

theorem bound_eq_error {said : List Binding} {text : String}
    (h : bound said text = .error reading) : reading = .misuse := by
  rw [bound] at h
  split at h
  · cases h
  · exact (Except.error.inj h).symm

/-- An item that ends the reading asks for help or makes no sense. -/
theorem add_eq_error {item : Item} (h : draft.add item = .error reading) :
    reading = .help ∨ reading = .misuse := by
  cases item with
  | nonsense => exact .inr (Except.error.inj h).symm
  | flag flag =>
      cases flag with
      | verbose => cases h
      | help => exact .inl (Except.error.inj h).symm
  | operand word => exact .inr (once_eq_error (map_eq_error_iff.mp h))
  | setting setting value =>
      cases setting with
      | root =>
          rw [add, set] at h
          split at h
          · exact .inr (Except.error.inj h).symm
          · exact .inr (once_eq_error (map_eq_error_iff.mp h))
      | names => exact .inr (bound_eq_error (map_eq_error_iff.mp h))
      | extra => exact .inr (bound_eq_error (map_eq_error_iff.mp h))
      | _ => exact .inr (once_eq_error (map_eq_error_iff.mp h))

/-- **A row of items that ends the reading before its end makes no request.** -/
theorem addAll_eq_error (h : draft.addAll items = .error reading) :
    reading = .help ∨ reading = .misuse := by
  induction items generalizing draft with
  | nil => cases h
  | cons item rest ih =>
      rw [addAll_cons] at h
      cases hadd : draft.add item with
      | error reading' =>
          rw [hadd] at h
          cases h
          exact add_eq_error hadd
      | ok next =>
          rw [hadd] at h
          exact ih h

/-- A request is about one path. -/
theorem addAll_operands (draft : Draft) {words : List String} (h : 1 < words.length) :
    draft.addAll (words.map .operand) = .error .misuse := by
  obtain ⟨first, rest, rfl⟩ := List.exists_cons_of_length_pos (Nat.zero_lt_of_lt h)
  obtain ⟨second, rest, rfl⟩ := List.exists_cons_of_length_pos (Nat.lt_of_succ_lt_succ h)
  obtain ⟨path, _, _, _, _, _, _, _⟩ := draft
  cases path <;> rfl

end Draft

/-! ### Readings -/

variable {outer : Nat} {rootVariable : Option String} {words : List String} {items : List Item}

theorem read_of_error {reading : Reading} (hwords : command.items none words = items)
    (h : Draft.empty.addAll items = .error reading) :
    command.read outer rootVariable words = reading := by
  rw [Command.read, hwords, h]

theorem read_of_ok {draft : Draft} (hwords : command.items none words = items)
    (h : Draft.empty.addAll items = .ok draft) :
    command.read outer rootVariable words = draft.reading command outer rootVariable := by
  rw [Command.read, hwords, h]

/-- A request asks what its subcommand asks. -/
theorem command_of_read {request : Request}
    (h : command.read outer rootVariable words = .request request) :
    request.command = command := by
  rw [Command.read] at h
  split at h
  · rename_i draft _
    rw [Draft.reading] at h
    cases hpath : draft.path with
    | none => simp [hpath] at h
    | some path =>
        simp only [hpath] at h
        split at h
        · cases h
        · cases h
          rfl
  · rename_i hstop
    subst h
    rcases Draft.addAll_eq_error hstop with h | h <;> cases h

end DottedConfig.Cli
