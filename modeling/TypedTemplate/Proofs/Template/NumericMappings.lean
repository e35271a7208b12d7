import TypedTemplate.Proofs.Number.Whole
import TypedTemplate.Proofs.Template.PresentationForm
/-!
# Lists of numeric mappings

The mappings of numbers are all implicit or all explicit, and the first of them decides. Reading them keeps
that decision and a count; here both are said by the items alone. A list is read exactly when its items are
of one flavour throughout, and the numbers of the implicit ones are their places. Any other list has a first
item that does not go with the ones before it, and what is wrong with it is the code. What holds for the
whole list comes by induction from `Decides`, which says what the items that were read have decided.
-/

namespace TypedTemplate

namespace PresentationGrammar

variable {allowImplicit : Bool} {decimal : Char} {decided : Option Flavour} {index : Nat}
variable {before items : List Text} {item : Text} {code : ErrorCode}

/-! ### What is read, and what is wrong -/

/-- The mappings of texts to the numbers of their places, none of them rounded. -/
structure Numbered (items : List Text) (ms : List NumericMapping) : Prop where
  length_eq : ms.length = items.length
  exact_at : ∀ i item, items[i]? = some item → ∃ x : Binary64, x.IsNat i ∧ ms[i]? = some (.exact x item)

/-- The mappings of a list that is implicit throughout, where that is allowed, or explicit throughout. -/
inductive Uniform (allowImplicit : Bool) (decimal : Char) (items : List Text) (ms : List NumericMapping) :
    Prop
  | implicit (hallowed : allowImplicit = true) (hitems : ∀ item ∈ items, ImplicitForm item)
      (hms : Numbered items ms) : Uniform allowImplicit decimal items ms
  | explicit (hitems : List.Forall₂ (ExplicitForm decimal) items ms) :
      Uniform allowImplicit decimal items ms

/-- Why an item does not go with the ones before it. -/
inductive Misfit (allowImplicit : Bool) (decimal : Char) (before : List Text) (item : Text) :
    ErrorCode → Prop
  | assignments (hcount : 2 ≤ item.count '=') :
      Misfit allowImplicit decimal before item .mappingWrongAssignment
  | bare (hfree : '=' ∉ item) (hrefused : allowImplicit = false ∨ ∃ b ∈ before, '=' ∈ b) :
      Misfit allowImplicit decimal before item .mappingNoImplicitValues
  | empty (hempty : item = []) (hallowed : allowImplicit = true) (hbefore : ∀ b ∈ before, '=' ∉ b) :
      Misfit allowImplicit decimal before item .mappingEmptyImplicitValue
  | assigned (hcount : item.count '=' = 1) (hrefused : ∃ b ∈ before, '=' ∉ b) :
      Misfit allowImplicit decimal before item .mappingNoExplicitValues
  | value {spec text : Text} {code : ErrorCode} (hassigns : Assigns item spec text)
      (hbefore : ∀ b ∈ before, '=' ∈ b) (hspec : valueSpec decimal spec text = .error code) :
      Misfit allowImplicit decimal before item code

/-! ### What has been decided -/

def flavour (item : Text) : Flavour :=
  if '=' ∈ item then .explicit else .implicit

theorem flavour_eq_explicit_iff : flavour item = .explicit ↔ '=' ∈ item := by
  simp [flavour]

theorem flavour_eq_implicit_iff : flavour item = .implicit ↔ '=' ∉ item := by
  simp [flavour]

theorem mem_of_assigns {spec text : Text} (h : Assigns item spec text) : '=' ∈ item := by
  rw [h.1]
  exact List.mem_append_right _ List.mem_cons_self

theorem eq_flavour_of_numericMapping {f : Flavour} {m : NumericMapping}
    (h : numericMapping allowImplicit decimal decided index item = .ok (f, m)) :
    f = flavour item ∧ ∀ g, decided = some g → g = f := by
  obtain ⟨rfl, _, hdecided, ⟨_, hfree⟩, _⟩ | ⟨rfl, hdecided, _, _, hassigns, _⟩ :=
    numericMapping_eq_ok_iff.mp h
  · refine ⟨(flavour_eq_implicit_iff.mpr hfree).symm, fun g hg => ?_⟩
    cases g with
    | implicit => rfl
    | explicit => exact absurd hg hdecided
  · refine ⟨(flavour_eq_explicit_iff.mpr (mem_of_assigns hassigns)).symm, fun g hg => ?_⟩
    cases g with
    | implicit => exact absurd hg hdecided
    | explicit => rfl

/-- What the items that were read have decided: the flavour all of them have, and nothing when there are
none. -/
structure Decides (before : List Text) (decided : Option Flavour) : Prop where
  undecided : before = [] → decided = none
  flavours : ∀ b ∈ before, decided = some (flavour b)

theorem decides_nil : Decides [] none where
  undecided _ := rfl
  flavours _ hb := absurd hb List.not_mem_nil

namespace Decides

theorem eq_some_iff (h : Decides before decided) {f : Flavour} :
    decided = some f ↔ ∃ b ∈ before, flavour b = f := by
  constructor
  · rintro rfl
    cases before with
    | nil => exact absurd (h.undecided rfl) (by simp)
    | cons b before =>
        have hb := h.flavours b List.mem_cons_self
        exact ⟨b, List.mem_cons_self, (Option.some.inj hb).symm⟩
  · rintro ⟨b, hb, rfl⟩
    exact h.flavours b hb

theorem concat {f : Flavour} {m : NumericMapping} (h : Decides before decided)
    (hread : numericMapping allowImplicit decimal decided index item = .ok (f, m)) :
    Decides (before ++ [item]) (some f) := by
  obtain ⟨hf, hkept⟩ := eq_flavour_of_numericMapping hread
  -- The item was of the flavour decided before, so it is still the flavour of all the others.
  refine ⟨fun hnil => absurd hnil (by simp), fun b hb => congrArg some ?_⟩
  rcases List.mem_append.mp hb with hbefore | hitem
  · exact (hkept _ (h.flavours b hbefore)).symm
  · rwa [List.mem_singleton.mp hitem]

end Decides

/-! ### The first misfit -/

theorem numericMapping_eq_error_iff_of_not_mem (h : Decides before decided) (hfree : '=' ∉ item) :
    numericMapping allowImplicit decimal decided index item = .error code
      ↔ Misfit allowImplicit decimal before item code := by
  have hexplicit : decided = some .explicit ↔ ∃ b ∈ before, '=' ∈ b := by
    simp only [h.eq_some_iff, flavour_eq_explicit_iff]
  simp only [numericMapping, Text.split_of_not_mem hfree, Bool.or_eq_true, Bool.not_eq_true', beq_iff_eq,
    hexplicit, List.isEmpty_iff]
  constructor
  · intro hread
    split at hread
    · next hrefused =>
        obtain rfl := Except.error.inj hread
        exact .bare hfree hrefused
    · next haccepted =>
        split at hread
        · next hempty =>
            obtain rfl := Except.error.inj hread
            simp only [not_or, not_exists, not_and, Bool.not_eq_false] at haccepted
            exact .empty hempty haccepted.1 haccepted.2
        · exact absurd hread (by simp)
  · have hnone : item.count '=' = 0 := List.count_eq_zero.mpr hfree
    intro hmisfit
    cases hmisfit with
    | assignments hcount => omega
    | bare _ hrefused => rw [if_pos hrefused]
    | empty hempty hallowed hbefore => rw [if_neg (by simpa [hallowed] using hbefore), if_pos hempty]
    | assigned hcount => omega
    | value hassigns => exact absurd (mem_of_assigns hassigns) hfree

theorem numericMapping_eq_error_iff_of_assigns (h : Decides before decided) {spec text : Text}
    (hassigns : Assigns item spec text) :
    numericMapping allowImplicit decimal decided index item = .error code
      ↔ Misfit allowImplicit decimal before item code := by
  have hsplit := split_of_assigns hassigns
  have hmem := mem_of_assigns hassigns
  have hone : item.count '=' = 1 := by
    rw [Text.count_eq_length_split, hsplit, List.length_singleton]
  have himplicit : decided = some .implicit ↔ ∃ b ∈ before, '=' ∉ b := by
    simp only [h.eq_some_iff, flavour_eq_implicit_iff]
  simp only [numericMapping, hsplit, beq_iff_eq, himplicit]
  constructor
  · intro hread
    split at hread
    · next hrefused =>
        obtain rfl := Except.error.inj hread
        exact .assigned hone hrefused
    · next haccepted =>
        simp only [not_exists, not_and, not_not] at haccepted
        exact .value hassigns haccepted (map_eq_error_iff.mp hread)
  · intro hmisfit
    cases hmisfit with
    | assignments hcount => omega
    | bare hfree => exact absurd hmem hfree
    | empty hempty => exact absurd (hempty ▸ hmem) List.not_mem_nil
    | assigned _ hrefused => rw [if_pos hrefused]
    | value hassigns' hbefore hspec =>
        obtain ⟨rfl, hpieces⟩ := Prod.mk.inj (hsplit.symm.trans (split_of_assigns hassigns'))
        obtain ⟨rfl, _⟩ := List.cons.inj hpieces
        rw [if_neg (by simpa using hbefore), map_eq_error_iff]
        exact hspec

theorem numericMapping_eq_error_iff (h : Decides before decided) :
    numericMapping allowImplicit decimal decided index item = .error code
      ↔ Misfit allowImplicit decimal before item code := by
  obtain ⟨hfree, _⟩ | ⟨_, _, hassigns, _⟩ | ⟨_, _, _, rest, hsplit⟩ := split_cases item
  · exact numericMapping_eq_error_iff_of_not_mem h hfree
  · exact numericMapping_eq_error_iff_of_assigns h hassigns
  · have hmany : item.count '=' = rest.length + 2 := by
      rw [Text.count_eq_length_split, hsplit, List.length_cons, List.length_cons]
    simp only [numericMapping, hsplit]
    constructor
    · intro hread
      obtain rfl := Except.error.inj hread
      exact .assignments (by omega)
    · intro hmisfit
      cases hmisfit with
      | assignments => rfl
      | bare hfree =>
          have hnone := List.count_eq_zero.mpr hfree
          omega
      | empty hempty => simp [hempty] at hmany
      | assigned hone => omega
      | value hassigns =>
          rw [split_of_assigns hassigns] at hsplit
          exact absurd hsplit (by simp)

/-- A list is refused at the first item that does not go with the ones before it. -/
theorem numericMappingsFrom_eq_error_iff (h : Decides before decided) :
    numericMappingsFrom allowImplicit decimal decided index items = .error code
      ↔ ∃ between item after, items = between ++ item :: after
        ∧ (∃ ms, numericMappingsFrom allowImplicit decimal decided index between = .ok ms)
        ∧ Misfit allowImplicit decimal (before ++ between) item code := by
  induction items generalizing before decided index with
  | nil => simp [numericMappingsFrom]
  | cons first items ih =>
      -- An item that is read goes over to `before`, and the decision it leaves is what that decides.
      simp only [numericMappingsFrom, bind_eq_error_iff, Prod.exists]
      constructor
      · rintro (hread | ⟨f, m, hread, hrest | ⟨_, _, hok⟩⟩)
        · refine ⟨[], first, items, rfl, ⟨[], rfl⟩, ?_⟩
          rw [List.append_nil]
          exact (numericMapping_eq_error_iff h).mp hread
        · obtain ⟨between, item, after, rfl, ⟨ms, hms⟩, hmisfit⟩ := (ih (h.concat hread)).mp hrest
          refine ⟨first :: between, item, after, rfl, ⟨m :: ms, ?_⟩, ?_⟩
          · exact bind_eq_ok_iff.mpr ⟨_, hread, bind_eq_ok_iff.mpr ⟨ms, hms, rfl⟩⟩
          · rwa [List.append_assoc] at hmisfit
        · exact absurd hok (by simp)
      · rintro ⟨between, item, after, hitems, ⟨ms, hms⟩, hmisfit⟩
        cases between with
        | nil =>
            obtain ⟨rfl, rfl⟩ := List.cons.inj hitems
            rw [List.append_nil] at hmisfit
            exact .inl ((numericMapping_eq_error_iff h).mpr hmisfit)
        | cons b between =>
            obtain ⟨rfl, rfl⟩ := List.cons.inj hitems
            obtain ⟨⟨f, m⟩, hread, hms⟩ := bind_eq_ok_iff.mp hms
            obtain ⟨ms', hms', _⟩ := bind_eq_ok_iff.mp hms
            refine .inr ⟨f, m, hread, .inl ((ih (h.concat hread)).mpr ⟨between, item, after, rfl, ⟨ms', hms'⟩, ?_⟩)⟩
            rwa [List.append_assoc]

/-! ### The numbers of implicit mappings -/

theorem getElem?_numbered (items : List Text) (i : Nat) :
    (numbered 0 items)[i]? = items[i]?.map fun item => .exact (implicitNumber i) item := by
  simp [numbered, List.getElem?_zipIdx, Function.comp_def]

theorem isNat_implicitNumber (i : Nat) : (implicitNumber i).IsNat (i % 2 ^ (32 : Nat)) := by
  have hbits : 2 ^ (32 : Nat) ≤ 2 ^ Binary64.significantBits := Nat.pow_le_pow_right (by decide) (by decide)
  have hlt : i % 2 ^ (32 : Nat) < 2 ^ (32 : Nat) := Nat.mod_lt _ (Nat.two_pow_pos _)
  exact Binary64.isNat_ofNat (Nat.le_of_lt (Nat.lt_of_lt_of_le hlt hbits))

theorem numbered_iff {ms : List NumericMapping} (hlength : items.length < 2 ^ (32 : Nat)) :
    Numbered items ms ↔ ms = numbered 0 items := by
  have hnat : ∀ i item, items[i]? = some item → (implicitNumber i).IsNat i := by
    intro i item hi
    have hplace := isNat_implicitNumber i
    rwa [Nat.mod_eq_of_lt (Nat.lt_trans (List.getElem?_eq_some_iff.mp hi).1 hlength)] at hplace
  constructor
  · intro h
    apply List.ext_getElem?
    intro i
    rw [getElem?_numbered]
    cases hi : items[i]? with
    | none =>
        rw [List.getElem?_eq_none_iff, ← h.length_eq] at hi
        exact List.getElem?_eq_none_iff.mpr hi
    | some item =>
        obtain ⟨x, hx, hms⟩ := h.exact_at i item hi
        rw [hms, hx.unique (hnat i item hi)]
        rfl
  · rintro rfl
    refine ⟨by simp [numbered], fun i item hi => ⟨implicitNumber i, hnat i item hi, ?_⟩⟩
    rw [getElem?_numbered, hi, Option.map_some]

theorem uniform_iff_numericForm {ms : List NumericMapping} (hlength : items.length < 2 ^ (32 : Nat)) :
    Uniform allowImplicit decimal items ms ↔ NumericForm allowImplicit decimal items ms := by
  have hnumbered : Numbered items ms ↔ ms = numbered 0 items := numbered_iff hlength
  constructor
  · intro h
    cases h with
    | implicit hallowed hitems hms =>
        obtain rfl := hnumbered.mp hms
        exact .implicit hallowed hitems
    | explicit hitems => exact .explicit hitems
  · intro h
    cases h with
    | implicit hallowed hitems => exact .implicit hallowed hitems (hnumbered.mpr rfl)
    | explicit hitems => exact .explicit hitems

/-! ### The whole list -/

/-- A list is read when it is uniform, and refused for its first misfit. -/
structure ReadsUniform (allowImplicit : Bool) (decimal : Char) (items : List Text) : Prop where
  eq_ok_iff : ∀ ms, numericMappings allowImplicit decimal items = .ok ms
    ↔ ∃ l, ms = some l ∧ Uniform allowImplicit decimal items l
  eq_error_iff : ∀ code, numericMappings allowImplicit decimal items = .error code
    ↔ ∃ before item after, items = before ++ item :: after
      ∧ (∃ l, Uniform allowImplicit decimal before l) ∧ Misfit allowImplicit decimal before item code

/-- A list of mappings is read by a rule about its items, whatever their order and however they are mixed. -/
theorem readsUniform (allowImplicit : Bool) (decimal : Char) {items : List Text} (hitems : items ≠ [])
    (hlength : items.length < 2 ^ (32 : Nat)) : ReadsUniform allowImplicit decimal items where
  eq_ok_iff ms := by
    rw [numericMappings_eq_ok_iff]
    constructor
    · intro h
      cases h with
      | absent => exact absurd rfl hitems
      | present _ h => exact ⟨_, rfl, (uniform_iff_numericForm hlength).mpr h⟩
    · rintro ⟨l, rfl, h⟩
      exact .present hitems ((uniform_iff_numericForm hlength).mp h)
  eq_error_iff code := by
    rw [numericMappings, if_neg (by simpa using hitems), map_eq_error_iff,
      numericMappingsFrom_eq_error_iff decides_nil]
    have hbefore : ∀ before item after, items = before ++ item :: after → before.length < 2 ^ (32 : Nat) := by
      rintro before item after rfl
      rw [List.length_append] at hlength
      omega
    constructor
    · rintro ⟨before, item, after, hsplit, ⟨ms, hms⟩, hmisfit⟩
      rw [numericMappingsFrom_eq_ok_iff, ← uniform_iff_numericForm (hbefore _ _ _ hsplit)] at hms
      exact ⟨before, item, after, hsplit, ⟨ms, hms⟩, hmisfit⟩
    · rintro ⟨before, item, after, hsplit, ⟨ms, hms⟩, hmisfit⟩
      rw [uniform_iff_numericForm (hbefore _ _ _ hsplit), ← numericMappingsFrom_eq_ok_iff] at hms
      exact ⟨before, item, after, hsplit, ⟨ms, hms⟩, hmisfit⟩

/-- The third item is the first misfit; the empty one behind it does not come into play. -/
theorem readsUniform_of_mixed_items :
    let items := ["off", "on", "2=two", ""].map String.toList
    items ≠ [] ∧ items.length < 2 ^ (32 : Nat) ∧ ReadsUniform true '.' items
      ∧ numericMappings true '.' items = .error .mappingNoExplicitValues := by
  intro items
  have hitems : items ≠ [] := by decide
  have hlength : items.length < 2 ^ (32 : Nat) := by decide
  have hreads := readsUniform true '.' hitems hlength
  have hbefore : ∃ l, Uniform true '.' ["off".toList, "on".toList] l := by
    refine ⟨_, (uniform_iff_numericForm (by decide)).mpr (.implicit rfl ?_)⟩
    simp [ImplicitForm]
  refine ⟨hitems, hlength, hreads, (hreads.eq_error_iff _).mpr ?_⟩
  exact ⟨_, "2=two".toList, [[]], rfl, hbefore, .assigned (by decide) ⟨"on".toList, by decide, by decide⟩⟩

end PresentationGrammar

end TypedTemplate
