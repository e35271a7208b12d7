import Mathlib.Data.List.Forall2
import Mathlib.Data.List.Nodup
import TypedTemplate.Proofs.Outcome
import TypedTemplate.Template.Session
/-!
# What a session remembers

A session keeps its variables in a list, in a registry of names and in a tally of kinds. The three agree,
and the names of the variables are pairwise distinct: `Sound`. That is because a placeholder declares a
variable only under a name that is not registered yet: an author's name is looked up first, and a generated
name is the first of its kind that is free. Everything else is said by `place_cases`, the three things that
can come of a placeholder.
-/

namespace TypedTemplate

theorem exists_getElem?_of_forall₂ {α β : Type} {R : α → β → Prop} {as : List α} {bs : List β}
    (h : List.Forall₂ R as bs) {i : Nat} {b : β} (hb : bs[i]? = some b) :
    ∃ a, as[i]? = some a ∧ R a b := by
  induction h generalizing i with
  | nil => exact absurd hb (by simp)
  | @cons a _ _ _ hhead _ ih =>
      cases i with
      | zero =>
          obtain rfl := Option.some.inj hb
          exact ⟨a, rfl, hhead⟩
      | succ i => exact ih hb

theorem generatedName_injective (kind : Kind) {m n : Nat}
    (h : generatedName kind m = generatedName kind n) : m = n := by
  rw [generatedName, generatedName] at h
  have hdigits := (List.cons.inj (List.append_cancel_left h)).2
  rw [← Nat.ofDigitChars_ten_toDigits (n := m), hdigits, Nat.ofDigitChars_ten_toDigits]

theorem Separators.exists_decimalChar? {separators : Separators}
    (husable : separators.validate = .ok ()) : ∃ decimal, separators.decimalChar? = some decimal := by
  rw [validate] at husable
  split at husable
  · exact absurd husable (by simp)
  split at husable
  · exact absurd husable (by simp)
  split at husable
  · exact absurd husable (by simp)
  have hlength : separators.decimal.length = 1 := by omega
  obtain ⟨decimal, hdecimal⟩ := List.length_eq_one_iff.mp hlength
  exact ⟨decimal, by rw [decimalChar?, hdecimal]⟩

namespace Session

variable {s : Session}

theorem ofSeparators_eq_ok_iff {separators : Separators} :
    ofSeparators separators = .ok s
      ↔ separators.validate = .ok ()
        ∧ ∃ decimal, separators.decimalChar? = some decimal ∧ s = { decimal } := by
  rw [ofSeparators]
  cases husable : separators.validate with
  | error code => simp
  | ok =>
      obtain ⟨decimal, hdecimal⟩ := Separators.exists_decimalChar? husable
      simp [hdecimal, eq_comm]

/-! ### Looking up a name -/

theorem lookup_eq_none_iff {x : Text} : s.lookup x = none ↔ x ∉ s.registry.map Prod.fst := by
  rw [lookup, List.lookup_eq_none_iff]
  constructor
  · intro h hmem
    obtain ⟨p, hp, rfl⟩ := List.mem_map.mp hmem
    exact absurd (h p hp) (by simp)
  · intro h p hp
    rw [bne_iff_ne]
    rintro rfl
    exact h (List.mem_map_of_mem hp)

theorem lookup_register (s : Session) (v : Variable) (x : Text) :
    (s.register v).lookup x = if x = v.name then some v else s.lookup x := by
  rw [lookup, register, List.lookup_cons]
  by_cases hx : x = v.name
  · rw [if_pos hx, hx, beq_self_eq_true]
  · rw [if_neg hx, beq_eq_false_iff_ne.mpr hx]
    rfl

theorem freeNumber_taken {kind : Kind} {fuel number : Nat}
    (htaken : s.lookup (generatedName kind (s.freeNumber kind fuel number)) ≠ none) (i : Nat)
    (hi : i ≤ fuel) : s.lookup (generatedName kind (number + i)) ≠ none := by
  induction fuel generalizing number i with
  | zero =>
      obtain rfl : i = 0 := by omega
      exact htaken
  | succ fuel ih =>
      rw [freeNumber] at htaken
      split at htaken
      · next hnumber =>
          cases i with
          | zero => exact Option.ne_none_iff_isSome.mpr hnumber
          | succ i =>
              have := ih htaken i (by omega)
              rwa [Nat.add_assoc, Nat.add_comm 1] at this
      · next hnumber => simp_all

/-- Of one more number than there are registered names, one is free. -/
theorem exists_lookup_eq_none (s : Session) (kind : Kind) (start : Nat) :
    ∃ i ≤ s.registry.length, s.lookup (generatedName kind (start + i)) = none := by
  by_contra hnone
  let candidates := (List.range (s.registry.length + 1)).map fun i => generatedName kind (start + i)
  have hnodup : candidates.Nodup := by
    refine List.Nodup.map (fun i j hij => ?_) List.nodup_range
    have := generatedName_injective kind hij
    omega
  have hsubset : candidates ⊆ s.registry.map Prod.fst := by
    intro x hx
    obtain ⟨i, hi, rfl⟩ := List.mem_map.mp hx
    by_contra hfree
    exact hnone ⟨i, Nat.lt_succ_iff.mp (List.mem_range.mp hi), lookup_eq_none_iff.mpr hfree⟩
  have hlength := List.Nodup.length_le_of_subset hnodup hsubset
  simp only [candidates, List.length_map, List.length_range] at hlength
  omega

theorem lookup_nextNumber (s : Session) (kind : Kind) :
    s.lookup (generatedName kind (s.nextNumber kind)) = none := by
  by_contra htaken
  obtain ⟨i, hi, hfree⟩ := s.exists_lookup_eq_none kind (s.generated.get kind + 1)
  exact freeNumber_taken htaken i hi hfree

/-! ### What comes of a placeholder -/

theorem readFormat_eq_ok_iff {name : Text} {target : Option Variable} {format : Text} {r : Reading} :
    s.readFormat name target format = .ok r
      ↔ ∃ kind head items p, format.split '|' = (head, items)
        ∧ head.head?.bind Kind.ofLetter? = some kind ∧ Presentation.read kind s.decimal head items = .ok p
        ∧ match target with
          | some v => v.kind = kind ∧ r = .reuse { name, presentation := p, target := v }
          | none => r = .declaration kind (if name.isEmpty then none else some name) p := by
  rw [readFormat]
  rcases hsplit : format.split '|' with ⟨head, items⟩
  simp only [Prod.mk.injEq]
  cases hletter : head.head?.bind Kind.ofLetter? with
  | none =>
      refine ⟨fun h => absurd h (by simp), ?_⟩
      rintro ⟨kind, _, _, _, ⟨rfl, rfl⟩, hkind, _⟩
      exact absurd (hletter.symm.trans hkind) (by simp)
  | some kind =>
      constructor
      · intro h
        cases target with
        | none =>
            obtain ⟨p, hp, hr⟩ := bind_eq_ok_iff.mp h
            exact ⟨kind, head, items, p, ⟨rfl, rfl⟩, hletter, hp, (Except.ok.inj hr).symm⟩
        | some v =>
            by_cases hkind : v.kind = kind
            · simp only [hkind, ne_eq, not_true_eq_false, if_false] at h
              obtain ⟨p, hp, hr⟩ := bind_eq_ok_iff.mp h
              exact ⟨kind, head, items, p, ⟨rfl, rfl⟩, hletter, hp, hkind, (Except.ok.inj hr).symm⟩
            · simp [hkind] at h
      · rintro ⟨kind', _, _, p, ⟨rfl, rfl⟩, hkind, hp, hr⟩
        obtain rfl := Option.some.inj (hletter.symm.trans hkind)
        cases target with
        | none =>
            obtain rfl := hr
            exact bind_eq_ok_iff.mpr ⟨p, hp, rfl⟩
        | some v =>
            obtain ⟨rfl, rfl⟩ := hr
            simp only [ne_eq, not_true_eq_false, if_false]
            exact bind_eq_ok_iff.mpr ⟨p, hp, rfl⟩

/-- Where a body is cut at its colon, the parts decide what is read. -/
theorem read_eq_ok_iff_of_cut {body raw : Text} {format : Option Text} {r : Reading}
    (hcut : body.cut ':' = (raw, format)) {target : Option Variable}
    (htarget : (if raw.trim.isEmpty then none else s.lookup raw.trim) = target) :
    s.read body = .ok r
      ↔ body ≠ [] ∧ ':' ∉ format.getD [] ∧ (raw.trim = [] ∨ isName raw.trim = true)
        ∧ if format.getD [] = [] then
            ∃ v, target = some v ∧ r = .reuse ⟨raw.trim, v.presentation, v⟩
          else s.readFormat raw.trim target (format.getD []) = .ok r := by
  have hname : (!raw.trim.isEmpty && !isName raw.trim) = true
      ↔ ¬(raw.trim = [] ∨ isName raw.trim = true) := by simp
  rw [read, hcut]
  simp only [htarget]
  by_cases hbody : body = []
  · simp [hbody]
  by_cases hcolon : ':' ∈ format.getD []
  · simp [hbody, hcolon]
  by_cases hvalid : raw.trim = [] ∨ isName raw.trim = true
  · rw [if_neg (by simpa using hbody), if_neg hcolon, if_neg (mt hname.mp (not_not.mpr hvalid))]
    simp only [hbody, hcolon, hvalid, ne_eq, not_false_eq_true, true_and]
    cases format with
    | none => cases target <;> simp [@eq_comm _ r]
    | some format =>
        cases format with
        | nil => cases target <;> simp [@eq_comm _ r]
        | cons c rest => rfl
  · rw [if_neg (by simpa using hbody), if_neg hcolon, if_pos (hname.mpr hvalid)]
    simp [hvalid]

/-- A presentation that can be read for a kind in the session. -/
def Presents (s : Session) (kind : Kind) (p : Presentation) : Prop :=
  ∃ head items, Presentation.read kind s.decimal head items = .ok p

/-- A placeholder shows a declared variable as that one is shown or in a way of its own, or it declares
a variable under a name that is free. -/
theorem read_cases {body : Text} {r : Reading} (h : s.read body = .ok r) :
    (∃ name v p, s.lookup name = some v ∧ (p = v.presentation ∨ s.Presents v.kind p)
        ∧ r = .reuse ⟨name, p, v⟩)
      ∨ ∃ kind name p, (∀ x ∈ name, x ≠ [] ∧ s.lookup x = none) ∧ s.Presents kind p
          ∧ r = .declaration kind name p := by
  generalize hname : (body.cut ':').1.trim = name
  generalize htarget : (if name.isEmpty then none else s.lookup name) = target
  have hsome : ∀ v, target = some v → s.lookup name = some v := by
    intro v hv
    rw [hv] at htarget
    split at htarget
    · exact absurd htarget (by simp)
    · exact htarget
  have hnone : target = none →
      ∀ x ∈ (if name.isEmpty then none else some name), x ≠ [] ∧ s.lookup x = none := by
    intro hv x hx
    rw [hv] at htarget
    split at htarget
    · next hempty => simp [hempty] at hx
    · next hempty =>
        obtain rfl : name = x := by simpa [hempty] using hx
        exact ⟨by simpa using hempty, htarget⟩
  subst hname
  obtain ⟨_, _, _, hread⟩ := (read_eq_ok_iff_of_cut rfl htarget).mp h
  split at hread
  · obtain ⟨v, hv, hr⟩ := hread
    exact .inl ⟨_, v, _, hsome v hv, .inl rfl, hr⟩
  · obtain ⟨kind, head, items, p, _, _, hp, hr⟩ := readFormat_eq_ok_iff.mp hread
    cases target with
    | some v =>
        obtain ⟨rfl, hr⟩ := hr
        exact .inl ⟨_, v, p, hsome v rfl, .inr ⟨head, items, hp⟩, hr⟩
    | none => exact .inr ⟨kind, _, p, hnone rfl, ⟨head, items, hp⟩, hr⟩

/-- A reference shows the variable registered under its name, as that one is shown or in a way of its
own. -/
structure Refers (s : Session) (r : Reference) : Prop where
  lookup_eq : s.lookup r.name = some r.target
  presentation : r.presentation = r.target.presentation ∨ s.Presents r.target.kind r.presentation

/-- A declaration registers a variable under a name that is free. -/
structure Declares (s : Session) (v : Variable) (s' : Session) : Prop where
  name_ne_nil : v.name ≠ []
  lookup_eq_none : s.lookup v.name = none
  unbound : v.binding = none
  presentation : s.Presents v.kind v.presentation
  registered : ∃ generated, s' = { s with generated }.register v

/-- A placeholder is an error or a reference, and then the session stays as it is, or it is a
declaration. -/
theorem place_cases (s : Session) (body : Text) (span : Span) :
    (∃ code, s.place body span = (.error ⟨body, code, span⟩, s))
      ∨ (∃ r, s.place body span = (.reference r, s) ∧ s.Refers r)
      ∨ ∃ v s', s.place body span = (.declared v, s') ∧ s.Declares v s' := by
  rw [place]
  cases hread : s.read body with
  | error code => exact .inl ⟨code, rfl⟩
  | ok r =>
      obtain ⟨name, v, p, hv, hp, rfl⟩ | ⟨kind, name, p, hname, hp, rfl⟩ := read_cases hread
      · exact .inr (.inl ⟨_, rfl, hv, hp⟩)
      · cases name with
        | some name =>
            obtain ⟨hne, hfree⟩ := hname name rfl
            exact .inr (.inr ⟨_, _, rfl, hne, hfree, rfl, hp, s.generated, rfl⟩)
        | none =>
            have hne : generatedName kind (s.nextNumber kind) ≠ [] := by simp [generatedName]
            exact .inr (.inr ⟨_, _, rfl, hne, s.lookup_nextNumber kind, rfl, hp, _, rfl⟩)

/-! ### Placing a whole template -/

/-- The registry, the list and the tally hold the same variables. Their names are pairwise distinct and not
empty, and none of them is bound. -/
structure Sound (s : Session) : Prop where
  registry_eq : s.registry = (s.declared.map fun v => (v.name, v)).reverse
  counts_eq : s.counts = Tally.ofKinds (s.declared.map Variable.kind)
  nodup : (s.declared.map Variable.name).Nodup
  named : ∀ v ∈ s.declared, v.name ≠ []
  unbound : ∀ v ∈ s.declared, v.binding = none

theorem Sound.lookup_eq_none_iff (hs : s.Sound) {x : Text} :
    s.lookup x = none ↔ ∀ v ∈ s.declared, v.name ≠ x := by
  rw [Session.lookup_eq_none_iff, hs.registry_eq]
  simp

theorem Sound.mem_of_lookup (hs : s.Sound) {x : Text} {v : Variable} (h : s.lookup x = some v) :
    v ∈ s.declared ∧ v.name = x := by
  obtain ⟨before, after, hregistry, _⟩ := List.lookup_eq_some_iff.mp h
  have hmem : (x, v) ∈ s.registry := by simp [hregistry]
  rw [hs.registry_eq, List.mem_reverse, List.mem_map] at hmem
  obtain ⟨w, hw, hpair⟩ := hmem
  obtain ⟨rfl, rfl⟩ := Prod.mk.inj hpair
  exact ⟨hw, rfl⟩

theorem Sound.lookup_eq_some_iff (hs : s.Sound) {x : Text} {v : Variable} :
    s.lookup x = some v ↔ v ∈ s.declared ∧ v.name = x := by
  refine ⟨hs.mem_of_lookup, ?_⟩
  rintro ⟨hv, rfl⟩
  cases hlookup : s.lookup v.name with
  | none => exact absurd rfl (hs.lookup_eq_none_iff.mp hlookup v hv)
  | some w =>
      obtain ⟨hw, hname⟩ := hs.mem_of_lookup hlookup
      rw [List.inj_on_of_nodup_map hs.nodup hw hv hname]

theorem sound_opened (decimal : Char) : Sound { decimal } where
  registry_eq := rfl
  counts_eq := rfl
  nodup := List.nodup_nil
  named := by simp
  unbound := by simp

theorem Declares.declared_eq {v : Variable} {s' : Session} (h : s.Declares v s') :
    s'.declared = s.declared ++ [v] := by
  obtain ⟨generated, rfl⟩ := h.registered
  rfl

theorem Declares.sound {v : Variable} {s' : Session} (h : s.Declares v s') (hs : s.Sound) : s'.Sound := by
  have hfree := hs.lookup_eq_none_iff.mp h.lookup_eq_none
  obtain ⟨generated, rfl⟩ := h.registered
  constructor
  case registry_eq =>
    show (v.name, v) :: s.registry = ((s.declared ++ [v]).map fun w => (w.name, w)).reverse
    simp [hs.registry_eq]
  case counts_eq =>
    show s.counts.bump v.kind = Tally.ofKinds ((s.declared ++ [v]).map Variable.kind)
    rw [hs.counts_eq, List.map_append, List.map_singleton, Tally.ofKinds_concat]
  case nodup =>
    show ((s.declared ++ [v]).map Variable.name).Nodup
    rw [List.map_append, List.map_singleton, ← List.concat_eq_append]
    exact List.Nodup.concat (by simpa using hfree) hs.nodup
  case named =>
    intro w hw
    obtain hw | rfl := List.mem_append.mp hw |>.imp_right List.mem_singleton.mp
    · exact hs.named w hw
    · exact h.name_ne_nil
  case unbound =>
    intro w hw
    obtain hw | rfl := List.mem_append.mp hw |>.imp_right List.mem_singleton.mp
    · exact hs.unbound w hw
    · exact h.unbound

theorem sound_of_ofSeparators {separators : Separators} (h : ofSeparators separators = .ok s) :
    s.Sound := by
  obtain ⟨_, decimal, _, rfl⟩ := ofSeparators_eq_ok_iff.mp h
  exact sound_opened decimal

end Session

/-- What a segment can be parsed into: a text into itself, a placeholder into its error or into a token
that shows a variable under its name. -/
inductive Segment.ParsesTo (declared : List Variable) : Segment → Token → Prop
  | text (t : Text) : ParsesTo declared (.text t) (.text t)
  | error (body : Text) (span : Span) (code : ErrorCode) :
      ParsesTo declared (.placeholder body span) (.error ⟨body, code, span⟩)
  | shown (body : Text) (span : Span) {token : Token} {v : Variable} (hshown : token.shown? = some v)
      (hname : token.name? = some v.name) (hmem : v ∈ declared) :
      ParsesTo declared (.placeholder body span) token

theorem Segment.ParsesTo.mono {declared more : List Variable} (h : declared ⊆ more) {segment : Segment}
    {token : Token} (hparses : segment.ParsesTo declared token) : segment.ParsesTo more token := by
  cases hparses with
  | text t => exact .text t
  | error body span code => exact .error body span code
  | shown body span hshown hname hmem => exact .shown body span hshown hname (h hmem)

theorem Segment.ParsesTo.of_shown? {declared : List Variable} {segment : Segment} {token : Token}
    (h : segment.ParsesTo declared token) {v : Variable} (hv : token.shown? = some v) :
    v ∈ declared ∧ token.name? = some v.name := by
  cases h with
  | text | error => exact absurd hv (by simp [Token.shown?])
  | shown body span hshown hname hmem =>
      obtain rfl := Option.some.inj (hshown.symm.trans hv)
      exact ⟨hmem, hname⟩

namespace Session

theorem placeSegment_spec {s : Session} (hs : s.Sound) (segment : Segment) :
    (s.placeSegment segment).2.Sound
      ∧ s.declared ⊆ (s.placeSegment segment).2.declared
      ∧ segment.ParsesTo (s.placeSegment segment).2.declared (s.placeSegment segment).1 := by
  cases segment with
  | text t => exact ⟨hs, List.Subset.refl _, .text t⟩
  | placeholder body span =>
      obtain ⟨code, hplace⟩ | ⟨r, hplace, hrefers⟩ | ⟨v, s', hplace, hdeclares⟩ :=
        s.place_cases body span
      · rw [placeSegment, hplace]
        exact ⟨hs, List.Subset.refl _, .error body span code⟩
      · rw [placeSegment, hplace]
        obtain ⟨hmem, hname⟩ := hs.mem_of_lookup hrefers.lookup_eq
        exact ⟨hs, List.Subset.refl _, .shown body span rfl (congrArg some hname.symm) hmem⟩
      · rw [placeSegment, hplace]
        have hsubset : s.declared ⊆ s'.declared := by
          rw [hdeclares.declared_eq]
          exact List.subset_append_left _ _
        have hmem : v ∈ s'.declared := by simp [hdeclares.declared_eq]
        exact ⟨hdeclares.sound hs, hsubset, .shown body span rfl rfl hmem⟩

theorem placeAll_spec {s : Session} (hs : s.Sound) (segments : List Segment) :
    (s.placeAll segments).2.Sound
      ∧ s.declared ⊆ (s.placeAll segments).2.declared
      ∧ List.Forall₂ (Segment.ParsesTo (s.placeAll segments).2.declared) segments
          (s.placeAll segments).1 := by
  induction segments generalizing s with
  | nil => exact ⟨hs, List.Subset.refl _, .nil⟩
  | cons segment segments ih =>
      obtain ⟨hsound, hsubset, hparses⟩ := placeSegment_spec hs segment
      obtain ⟨hsound', hsubset', hrest⟩ := ih hsound
      exact ⟨hsound', List.Subset.trans hsubset hsubset', .cons (hparses.mono hsubset') hrest⟩

theorem length_placeAll (s : Session) (segments : List Segment) :
    (s.placeAll segments).1.length = segments.length := by
  induction segments generalizing s with
  | nil => rfl
  | cons segment segments ih => rw [placeAll, List.length_cons, List.length_cons, ih]

end Session

end TypedTemplate
