import Compendium.OrderedMap

/-!
# Compendium — steps that can fail

How a computation of several fallible steps comes to succeed: each step does, and the result is made
of theirs. It fails with the first step that fails.

* `bind_eq_ok_iff` takes two steps apart, and `mapM_eq_ok_iff` a list of independent ones.
* `bind_eq_error_iff` and `mapM_eq_error_iff` say which of the steps has failed.
* `eq_of_map_toOption` and `exists_of_bind_map_toOption` are for steps of which only something that is
  made of their outcomes has been computed.
* `foldlM_insert_eq_ok` is for a list of steps that each check one item and enter it into a map.
-/

namespace Compendium

/-- Two steps succeed if the first does and the second does with what the first gives. -/
theorem bind_eq_ok_iff {α β ε : Type} {x : Except ε α} {f : α → Except ε β} {b : β} :
    x >>= f = .ok b ↔ ∃ a, x = .ok a ∧ f a = .ok b := by
  cases x with
  | error e =>
    constructor
    · intro h
      cases h
    · rintro ⟨a, ha, -⟩
      cases ha
  | ok a =>
    constructor
    · intro h
      exact ⟨a, rfl, h⟩
    · rintro ⟨a', ha, h⟩
      cases ha
      exact h

/-- Two steps fail with the first, or with the second after the first has succeeded. -/
theorem bind_eq_error_iff {α β ε : Type} {x : Except ε α} {f : α → Except ε β} {e : ε} :
    x >>= f = .error e ↔ x = .error e ∨ ∃ a, x = .ok a ∧ f a = .error e := by
  cases x with
  | error e' => simp [bind, Except.bind]
  | ok a => simp [bind, Except.bind]

/-- Making something of an outcome neither adds a failure nor takes one away. -/
theorem map_eq_error_iff {α β ε : Type} {x : Except ε α} {f : α → β} {e : ε} :
    x.map f = .error e ↔ x = .error e := by
  cases x <;> simp [Except.map]

/-- To forget why a step has failed loses nothing of one that has not. -/
theorem toOption_eq_some_iff {α ε : Type} {x : Except ε α} {a : α} :
    x.toOption = some a ↔ x = .ok a := by
  cases x <;> simp [Except.toOption]

/-- What has been computed of a step's outcome holds of the outcome. -/
theorem eq_of_map_toOption {α β ε : Type} {x : Except ε α} {a : α} {f : α → β} {b : β}
    (hx : x = .ok a) (h : x.toOption.map f = some b) : f a = b := by
  rw [toOption_eq_some_iff.2 hx, Option.map_some, Option.some_inj] at h
  exact h

/-- What two steps give can be evaluated first and taken apart then. -/
theorem exists_of_bind_map_toOption {α β γ ε ε' : Type} {x : Except ε α} {f : α → Except ε' β}
    {g : α → β → γ} {c : γ} (h : (x.toOption.bind fun a => (f a).toOption.map (g a)) = some c) :
    ∃ a b, x = .ok a ∧ f a = .ok b ∧ g a b = c := by
  obtain ⟨a, ha, hmap⟩ := Option.bind_eq_some_iff.1 h
  obtain ⟨b, hb, hc⟩ := Option.map_eq_some_iff.1 hmap
  exact ⟨a, b, toOption_eq_some_iff.1 ha, toOption_eq_some_iff.1 hb, hc⟩

/-- A list of fallible steps succeeds if each of them does, with what each of them gives. -/
theorem mapM_eq_ok_iff {α β ε : Type} {f : α → Except ε β} (default : β) {xs : List α}
    {ys : List β} :
    xs.mapM f = .ok ys ↔
      (∀ x ∈ xs, ∃ y, f x = .ok y) ∧ ys = xs.map fun x => (f x).toOption.getD default := by
  induction xs generalizing ys with
  | nil =>
    rw [List.mapM_nil]
    constructor
    · intro h
      cases h
      exact ⟨fun x hx => absurd hx List.not_mem_nil, rfl⟩
    · rintro ⟨-, rfl⟩
      rfl
  | cons x xs ih =>
    rw [List.mapM_cons, bind_eq_ok_iff, List.forall_mem_cons]
    constructor
    · rintro ⟨y, hy, hrest⟩
      -- the first step gives `y`, and the others are a list of steps that has succeeded
      obtain ⟨ys', hys', hpure⟩ := bind_eq_ok_iff.1 hrest
      cases hpure
      obtain ⟨hall, rfl⟩ := ih.1 hys'
      refine ⟨⟨⟨y, hy⟩, hall⟩, ?_⟩
      rw [List.map_cons, hy]
      rfl
    · rintro ⟨⟨⟨y, hy⟩, hall⟩, rfl⟩
      refine ⟨y, hy, bind_eq_ok_iff.2 ⟨_, ih.2 ⟨hall, rfl⟩, ?_⟩⟩
      rw [List.map_cons, hy]
      rfl

/-- A list of fallible steps fails with the first step that does, whatever comes behind it. -/
theorem mapM_eq_error_iff {α β ε : Type} {f : α → Except ε β} {xs : List α} {e : ε} :
    xs.mapM f = .error e ↔ ∃ before x after, xs = before ++ x :: after
      ∧ (∀ y ∈ before, ∃ b, f y = .ok b) ∧ f x = .error e := by
  induction xs with
  | nil =>
    constructor
    · intro h
      cases h
    · rintro ⟨before, x, after, hxs, -⟩
      cases before <;> cases hxs
  | cons x xs ih =>
    rw [List.mapM_cons, bind_eq_error_iff]
    constructor
    · rintro (hx | ⟨b, hb, hrest⟩)
      · -- either this step fails, and nothing stands before it, or one of those behind it does
        exact ⟨[], x, xs, rfl, fun y hy => absurd hy List.not_mem_nil, hx⟩
      · rcases bind_eq_error_iff.1 hrest with hxs | ⟨bs, -, hpure⟩
        · obtain ⟨before, x', after, rfl, hbefore, hx'⟩ := ih.1 hxs
          exact ⟨x :: before, x', after, rfl, List.forall_mem_cons.2 ⟨⟨b, hb⟩, hbefore⟩, hx'⟩
        · cases hpure
    · rintro ⟨before, x', after, hxs, hbefore, hx'⟩
      -- either the first step is the one that fails or it succeeds
      cases before with
      | nil =>
        cases hxs
        exact .inl hx'
      | cons y before =>
        cases hxs
        obtain ⟨⟨b, hb⟩, hbefore⟩ := List.forall_mem_cons.1 hbefore
        exact .inr ⟨b, hb, bind_eq_error_iff.2 (.inl (ih.2 ⟨before, x', after, rfl, hbefore, hx'⟩))⟩

/-- A map that is filled item by item holds the items in order, and each has passed its check. -/
theorem foldlM_insert_eq_ok {α β ε : Type} {add : OrderedMap α → β → Except ε (OrderedMap α)}
    (entry : β → String × α) (Passed : β → Prop)
    (hadd : ∀ {m m' b}, add m b = .ok m' →
      Passed b ∧ (entry b).1 ∉ m.keys ∧ m' = m.insert (entry b).1 (entry b).2)
    {items : List β} : ∀ {m m' : OrderedMap α}, items.foldlM add m = .ok m' →
      m'.toList = m.toList ++ items.map entry ∧ ∀ b ∈ items, Passed b := by
  induction items with
  | nil =>
    intro m m' h
    cases h
    simp
  | cons b bs ih =>
    intro m m' h
    rw [List.foldlM_cons] at h
    obtain ⟨added, hstep, hrest⟩ := bind_eq_ok_iff.1 h
    obtain ⟨hpassed, hnew, rfl⟩ := hadd hstep
    obtain ⟨hlist, hall⟩ := ih hrest
    -- the new key went to the end, before those that follow
    rw [OrderedMap.toList_insert_of_notMem _ hnew, List.append_assoc] at hlist
    exact ⟨hlist, List.forall_mem_cons.2 ⟨hpassed, hall⟩⟩

end Compendium
