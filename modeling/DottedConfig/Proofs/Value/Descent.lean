/-
Going down into a value by keys.

`below?` says where a row of keys leads, with no word on what a failure looks like.  Looking
the keys up finds this value if there is one.  If there is none, some first key is to blame:
the ones before it lead to a value that has nothing under it, and the failure is the one that
looking it up there brings about.  The dotted path only ever ends up in the failure.
-/
import DottedConfig.Proofs.Except
import DottedConfig.Value.Key

namespace DottedConfig.Value

/-- The value under a key, if there is one. -/
def child? (value : Value) (key : String) : Option Value :=
  value.asMapping?.bind (find? key)

/-- The value that a row of keys leads to, if there is one. -/
def below? (value : Value) (keys : List String) : Option Value := keys.foldlM child? value

/-- Nothing is under a key, and this is the failure to look it up for a path. -/
structure Lacks (value : Value) (key path : String) (f : Failure) : Prop where
  child : value.child? key = none
  atKey : value.atKey key path = .error f
  kind : f.kind = .keyNotFound key
  path : f.path = some path

variable {value v : Value} {key path : String} {keys : List String}

theorem eq_string_of_asString? {s : String} (h : value.asString? = some s) :
    value = .string s := by
  cases value with
  | string s' => exact congrArg _ (Option.some.inj h)
  | _ => cases h

theorem eq_mapping_of_asMapping? {entries : List (String × Value)}
    (h : value.asMapping? = some entries) : value = .mapping entries := by
  cases value with
  | mapping entries' => exact congrArg _ (Option.some.inj h)
  | _ => cases h

theorem atKey_of_child (h : value.child? key = some v) (path : String) :
    value.atKey key path = .ok v := by
  cases value with
  | mapping entries =>
      have hfind : find? key entries = some v := h
      rw [atKey, hfind]
  | _ => cases h

theorem exists_lacks (h : value.child? key = none) (path : String) :
    ∃ f, value.Lacks key path f := by
  cases value with
  | mapping entries =>
      have hfind : find? key entries = none := h
      exact ⟨.keyNotFound key path, h, by rw [atKey, hfind], rfl, rfl⟩
  | _ => exact ⟨_, h, rfl, rfl, rfl⟩

/-- A missing key is neither located nor traced to a cause. -/
theorem Lacks.location_and_cause {f : Failure} (h : value.Lacks key path f) :
    f.location = none ∧ f.cause = none := by
  have hfails := h.atKey
  cases value with
  | mapping entries =>
      have hfind : find? key entries = none := h.child
      rw [Value.atKey, hfind] at hfails
      cases hfails
      exact ⟨rfl, rfl⟩
  | _ =>
      cases hfails
      exact ⟨rfl, rfl⟩

theorem below?_cons (value : Value) (key : String) (keys : List String) :
    value.below? (key :: keys) = (value.child? key).bind fun v => v.below? keys := rfl

theorem atKeys_cons (value : Value) (key : String) (keys : List String) (path : String) :
    value.atKeys (key :: keys) path = value.atKey key path >>= fun v => v.atKeys keys path := rfl

theorem atKeys_append (value : Value) (keys keys' : List String) (path : String) :
    value.atKeys (keys ++ keys') path =
      value.atKeys keys path >>= fun v => v.atKeys keys' path := by
  induction keys generalizing value with
  | nil => rfl
  | cons key keys ih =>
      rw [List.cons_append, atKeys_cons, atKeys_cons]
      cases value.atKey key path with
      | error f => rfl
      | ok v => exact ih v

theorem atKeys_of_below (h : value.below? keys = some v) (path : String) :
    value.atKeys keys path = .ok v := by
  induction keys generalizing value with
  | nil => exact congrArg Except.ok (Option.some.inj h)
  | cons key keys ih =>
      rw [below?_cons] at h
      obtain ⟨u, hchild, hbelow⟩ := Option.bind_eq_some_iff.mp h
      rw [atKeys_cons, atKey_of_child hchild]
      exact ih hbelow

/-- **Where nothing is below a value, some first key is to blame.** -/
theorem exists_lacks_of_below (h : value.below? keys = none) (path : String) :
    ∃ before key after u f, keys = before ++ key :: after ∧ value.below? before = some u ∧
      u.Lacks key path f ∧ value.atKeys keys path = .error f := by
  induction keys generalizing value with
  | nil => cases h
  | cons key keys ih =>
      rw [below?_cons] at h
      cases hchild : value.child? key with
      | none =>
          obtain ⟨f, hlacks⟩ := exists_lacks hchild path
          exact ⟨[], key, keys, value, f, rfl, rfl, hlacks, by rw [atKeys_cons, hlacks.atKey]; rfl⟩
      | some v =>
          rw [hchild] at h
          obtain ⟨before, key', after, u, f, rfl, hbefore, hlacks, hfails⟩ := ih h
          refine ⟨key :: before, key', after, u, f, rfl, ?_, hlacks, ?_⟩
          · rw [below?_cons, hchild]
            exact hbefore
          · rw [atKeys_cons, atKey_of_child hchild]
            exact hfails

theorem atKeys_eq_ok_iff : value.atKeys keys path = .ok v ↔ value.below? keys = some v := by
  constructor
  · intro h
    cases hbelow : value.below? keys with
    | some u =>
        rw [atKeys_of_below hbelow] at h
        exact congrArg some (Except.ok.inj h)
    | none =>
        obtain ⟨-, -, -, -, f, -, -, -, hfails⟩ := exists_lacks_of_below hbelow path
        rw [hfails] at h
        cases h
  · intro h
    exact atKeys_of_below h path

end DottedConfig.Value
