import Mathlib.Data.List.Induction
import TypedTemplate.Proofs.Input.Bank
/-!
# Runs of changes

A bank that is changed again and again stands for a map: a handle has a slot when the last sizes have room
for it, and the slot holds what was stored in it last, unless it was cleared or dropped since. The map is
read off the list of changes alone, with no look at the lists of slots. `value_apply_of_affects` and
`value_apply_of_not_affects` say what one change does to the value at a handle, and `accounts_applyAll`
says what a run comes to.
-/

namespace TypedTemplate

namespace InputBank

def applyAll (b : InputBank) (changes : List Change) : InputBank :=
  changes.foldl apply b

/-- The sizes a change brings a bank to. -/
def Change.sizes? : Change → Option Tally
  | resize sizes => some sizes
  | _ => none

def Change.handle? : Change → Option Handle
  | resize _ => none
  | put h _ | clear h => some h

/-- The changes that leave nothing of what was stored at a handle: its slot is dropped, another value of its
kind takes the place, or the value is removed. -/
inductive Change.Affects (h : Handle) : Change → Prop
  | dropped {sizes : Tally} (hsize : sizes.get h.kind ≤ h.index) : Affects h (resize sizes)
  | stored {v : Value} (hkind : v.kind = h.kind) : Affects h (put h v)
  | cleared : Affects h (clear h)

def lastSizes (changes : List Change) : Tally :=
  (changes.filterMap Change.sizes?).getLastD .zero

/-- A value was accepted at a handle, and no change has affected the handle since. -/
def LastStored (changes : List Change) (h : Handle) (v : Value) : Prop :=
  ∃ before after, changes = before ++ .put h v :: after
    ∧ ((empty.applyAll before).put? h v).isSome ∧ ∀ c ∈ after, ¬c.Affects h

/-- A bank as the map that a run of changes describes. -/
structure Accounts (b : InputBank) (changes : List Change) : Prop where
  counts_eq : b.counts = lastSizes changes
  isSome_slot?_iff : ∀ h, (b.slot? h).isSome ↔ h.index < (lastSizes changes).get h.kind
  value_eq_some_iff : ∀ h v, b.value h = some v ↔ (b.slot? h).isSome ∧ LastStored changes h v
  isSome_put?_iff : ∀ h v, (b.put? h v).isSome ↔ (b.slot? h).isSome ∧ v.kind = h.kind
  apply_of_refused : ∀ h v, b.put? h v = none → b.apply (.put h v) = b
  mem_handles_iff : ∀ h, h ∈ b.handles ↔ (b.slot? h).isSome
  nodup_handles : b.handles.Nodup
  pairwise_handles : b.handles.Pairwise Handle.Precedes

/-- A change at a handle leaves the value and the name at every other. -/
def Frames (b : InputBank) (c : Change) : Prop :=
  ∀ h, c.handle? = some h → ∀ other, other ≠ h →
    (b.apply c).value other = b.value other ∧ (b.apply c).name other = b.name other

variable {b : InputBank} {c : Change} {h : Handle} {v : Value}

/-! ### One change -/

theorem isSome_put?_iff : (b.put? h v).isSome ↔ (b.slot? h).isSome ∧ v.kind = h.kind := by
  constructor
  · intro hput
    rw [put?] at hput
    split at hput
    · next content slot hcontent hslot =>
        obtain rfl := Value.content?_eq_some_iff.mp hcontent
        exact ⟨by rw [hslot]; rfl, Value.kind_ofContent h.kind content⟩
    · exact absurd hput (by simp)
  · rintro ⟨hslot, hkind⟩
    obtain ⟨b', hput, _⟩ := exists_put? hslot hkind
    rw [hput]
    rfl

/-- A change at a handle gives it a value or takes its value away, or it does nothing. -/
theorem apply_eq_or_revalues (b : InputBank) (hc : c.handle? = some h) :
    b.apply c = b ∨ ∃ content, b.Revalues (b.apply c) h content := by
  cases c with
  | resize sizes => exact absurd hc (by simp [Change.handle?])
  | put h' v =>
      obtain rfl := Option.some.inj hc
      cases hput : b.put? h' v with
      | none => exact .inl (by rw [apply, hput, Option.getD_none])
      | some b' =>
          have haccepted := isSome_put?_iff.mp (Option.isSome_of_eq_some hput)
          obtain ⟨b'', hput', hb⟩ := exists_put? haccepted.1 haccepted.2
          obtain rfl := Option.some.inj (hput.symm.trans hput')
          exact .inr ⟨some v, by rwa [apply, hput, Option.getD_some]⟩
  | clear h' =>
      obtain rfl := Option.some.inj hc
      exact .inr ⟨none, b.revalues_clear h'⟩

theorem names_apply (b : InputBank) (hc : c.handle? = some h) (kind : Kind) :
    (b.apply c).names kind = b.names kind := by
  obtain hsame | ⟨content, hb⟩ := b.apply_eq_or_revalues hc
  · rw [hsame]
  · exact hb.names_eq kind

theorem value_apply_of_ne (b : InputBank) (hc : c.handle? = some h) {other : Handle}
    (hne : other ≠ h) : (b.apply c).value other = b.value other := by
  obtain hsame | ⟨content, hb⟩ := b.apply_eq_or_revalues hc
  · rw [hsame]
  · exact hb.value_of_ne other hne

theorem frames (b : InputBank) (c : Change) : b.Frames c := by
  intro h hc other hne
  refine ⟨b.value_apply_of_ne hc hne, ?_⟩
  rw [name_eq_getElem?, b.names_apply hc, ← name_eq_getElem?]

theorem counts_apply (b : InputBank) (c : Change) : (b.apply c).counts = c.sizes?.getD b.counts := by
  apply PerKind.ext_get
  intro kind
  rw [get_counts]
  cases c with
  | resize sizes => exact b.length_names_resize sizes kind
  | put h v =>
      rw [b.names_apply rfl, ← get_counts]
      rfl
  | clear h =>
      rw [b.names_apply rfl, ← get_counts]
      rfl

theorem value_apply_of_not_affects (hc : ¬c.Affects h) : (b.apply c).value h = b.value h := by
  cases c with
  | resize sizes =>
      have hsize : h.index < sizes.get h.kind := Nat.lt_of_not_le fun hle => hc (.dropped hle)
      rw [apply, value_resize, if_pos hsize]
  | put h' v =>
      by_cases hne : h = h'
      · subst hne
        have hrefused : b.put? h v = none := by
          rw [← Option.not_isSome_iff_eq_none, isSome_put?_iff]
          exact fun haccepted => hc (.stored haccepted.2)
        rw [apply, hrefused, Option.getD_none]
      · exact b.value_apply_of_ne rfl hne
  | clear h' =>
      have hne : h ≠ h' := by
        rintro rfl
        exact hc .cleared
      exact b.value_apply_of_ne rfl hne

/-- After a change that affects a handle there is a value only if the change has stored it. -/
theorem value_apply_of_affects (hc : c.Affects h) :
    (b.apply c).value h = some v ↔ c = .put h v ∧ (b.put? h v).isSome := by
  cases hc with
  | dropped hsize =>
      rw [apply, value_resize, if_neg (Nat.not_lt.mpr hsize)]
      simp
  | @stored w hkind =>
      by_cases hslot : (b.slot? h).isSome
      · obtain ⟨b', hput, hb⟩ := exists_put? hslot hkind
        have hvalue : (b.apply (.put h w)).value h = some w := by
          rw [apply, hput]
          exact hb.value_eq
        rw [hvalue]
        constructor
        · rintro ⟨⟩
          exact ⟨rfl, Option.isSome_of_eq_some hput⟩
        · rintro ⟨⟨⟩, _⟩
          rfl
      · have hrefused : b.put? h w = none := by
          rw [← Option.not_isSome_iff_eq_none, isSome_put?_iff]
          exact fun haccepted => hslot haccepted.1
        rw [apply, hrefused, Option.getD_none, value_eq_none_of_slot? (by simpa using hslot)]
        constructor
        · intro hnone
          exact absurd hnone (by simp)
        · rintro ⟨_, haccepted⟩
          exact absurd (isSome_put?_iff.mp haccepted).1 hslot
  | cleared =>
      rw [apply, (b.revalues_clear h).value_eq]
      simp

/-! ### A run of changes -/

variable {changes : List Change}

theorem applyAll_concat (b : InputBank) (changes : List Change) (c : Change) :
    b.applyAll (changes ++ [c]) = (b.applyAll changes).apply c := by
  rw [applyAll, List.foldl_concat, applyAll]

theorem lastSizes_concat (changes : List Change) (c : Change) :
    lastSizes (changes ++ [c]) = c.sizes?.getD (lastSizes changes) := by
  rw [lastSizes, List.filterMap_append, lastSizes]
  cases hsizes : c.sizes? with
  | none => simp [hsizes]
  | some sizes => simp [hsizes]

theorem counts_applyAll (changes : List Change) :
    (empty.applyAll changes).counts = lastSizes changes := by
  induction changes using List.reverseRecOn with
  | nil =>
      apply PerKind.ext_get
      intro kind
      cases kind <;> rfl
  | append_singleton changes c ih => rw [applyAll_concat, counts_apply, lastSizes_concat, ih]

theorem lastStored_concat :
    LastStored (changes ++ [c]) h v
      ↔ (c = .put h v ∧ ((empty.applyAll changes).put? h v).isSome)
        ∨ LastStored changes h v ∧ ¬c.Affects h := by
  constructor
  · rintro ⟨before, after, hsplit, hput, hafter⟩
    rcases List.eq_nil_or_concat after with rfl | ⟨rest, last, rfl⟩
    · obtain ⟨rfl, hlast⟩ := List.append_inj' hsplit rfl
      exact .inl ⟨List.singleton_inj.mp hlast, hput⟩
    · rw [List.concat_eq_append] at hsplit hafter
      rw [← List.cons_append, ← List.append_assoc] at hsplit
      obtain ⟨rfl, hlast⟩ := List.append_inj' hsplit rfl
      obtain rfl := List.singleton_inj.mp hlast
      refine .inr ⟨⟨before, rest, rfl, hput, fun c' hc' => hafter c' ?_⟩, hafter c ?_⟩
      · exact List.mem_append_left _ hc'
      · exact List.mem_append_right _ List.mem_cons_self
  · rintro (⟨rfl, hput⟩ | ⟨⟨before, after, rfl, hput, hafter⟩, hc⟩)
    · exact ⟨changes, [], rfl, hput, by simp⟩
    · refine ⟨before, after ++ [c], by simp, hput, fun c' hc' => ?_⟩
      rcases List.mem_append.mp hc' with hmem | hmem
      · exact hafter c' hmem
      · obtain rfl := List.mem_singleton.mp hmem
        exact hc

theorem value_applyAll_eq_some_iff :
    (empty.applyAll changes).value h = some v ↔ LastStored changes h v := by
  induction changes using List.reverseRecOn with
  | nil => simp [applyAll, LastStored, value_empty]
  | append_singleton changes c ih =>
      rw [applyAll_concat, lastStored_concat]
      -- What a change leaves at a handle is its own doing, or is what was there before.
      by_cases hc : c.Affects h
      · rw [value_apply_of_affects hc]
        simp [hc]
      · rw [value_apply_of_not_affects hc, ih]
        constructor
        · exact fun hstored => .inr ⟨hstored, hc⟩
        · rintro (⟨rfl, haccepted⟩ | hstored)
          · exact absurd (.stored (isSome_put?_iff.mp haccepted).2) hc
          · exact hstored.1

theorem accounts (changes : List Change) : (empty.applyAll changes).Accounts changes := by
  constructor
  case counts_eq => exact counts_applyAll changes
  case isSome_slot?_iff =>
    intro h
    rw [isSome_slot?_iff, counts_applyAll]
  case value_eq_some_iff =>
    intro h v
    rw [value_applyAll_eq_some_iff]
    refine ⟨fun hstored => ⟨?_, hstored⟩, And.right⟩
    by_contra hslot
    have hnone := value_eq_none_of_slot? (Option.not_isSome_iff_eq_none.mp hslot)
    rw [value_applyAll_eq_some_iff.mpr hstored] at hnone
    exact absurd hnone (by simp)
  case isSome_put?_iff => exact fun h v => isSome_put?_iff
  case apply_of_refused =>
    intro h v hrefused
    rw [apply, hrefused, Option.getD_none]
  case mem_handles_iff => exact fun h => mem_handles_iff_slot?
  case nodup_handles => exact InputBank.nodup_handles _
  case pairwise_handles => exact InputBank.pairwise_handles _

/-- However an empty bank is changed, it is the map that its changes describe, and no bank lets a change at
one handle be seen at another. -/
theorem accounts_applyAll (changes : List Change) :
    (empty.applyAll changes).Accounts changes ∧ ∀ (b : InputBank) (c : Change), b.Frames c :=
  ⟨accounts changes, frames⟩

/-- A slot that was dropped comes back without its value, and a value of another kind is not stored. -/
example :
    let b := empty.applyAll [.resize ⟨0, 2, 1, 0⟩, .put ⟨.integer, 0⟩ (.integer 5),
      .put ⟨.integer, 1⟩ (.integer 7), .put ⟨.number, 0⟩ (.integer 7), .resize ⟨0, 1, 1, 0⟩,
      .resize ⟨0, 2, 1, 1⟩, .put ⟨.text, 0⟩ (.text ['x']), .clear ⟨.text, 0⟩]
    b.handles.map b.value = [some (.integer 5), none, none, none] := by
  decide +kernel

end InputBank

end TypedTemplate
