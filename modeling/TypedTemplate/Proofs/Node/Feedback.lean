import TypedTemplate.Proofs.Node.Reassignment
import TypedTemplate.Proofs.Number.ReadBack
import TypedTemplate.Proofs.Template.PlaceholderForm
/-!
# Feeding a rendering back

What a plain token shows is a text that its own input accepts, and giving it back changes nothing at all:
the same value is read, down to the sign of a zero, and it is stored where it was. A truth value is shown as
a digit, an integer and a text as they are, and a number with all the digits it needs. Writing and reading
look the separator up in two ways; in a node they find the same character.
-/

namespace TypedTemplate

/-- The presentation of a variable that is declared with a bare letter, a number in the general format. -/
def Presentation.Bare (kind : Kind) (p : Presentation) : Prop :=
  ∃ letter ∈ kind.letters, (kind = .number → asciiUpper letter = 'G')
    ∧ ∃ decimal, Presentation.read kind decimal [letter] [] = .ok p

theorem Separators.decimalChar?_eq_some_iff {s : Separators} {c : Char} :
    s.decimalChar? = some c ↔ s.decimal = [c] := by
  rw [decimalChar?]
  split
  · next heq => rw [heq, Option.some_inj, List.singleton_inj]
  · next hnot =>
      refine ⟨fun h => absurd h (by simp), fun h => ?_⟩
      exact absurd h (hnot c)

/-! ### Values -/

theorem formatReal_general {letter : Char} (hletter : asciiUpper letter = 'G') {x : Binary64}
    (hx : x.isFinite = true) (separators : Separators) :
    formatReal x [letter] separators = x.shortest.write [] separators.decimal := by
  have hstyle : NumberFormat.styleOf letter = .general := by
    rw [NumberFormat.styleOf, hletter]
    rfl
  cases x with
  | nan => exact absurd hx (by decide)
  | infinite s => exact absurd hx (by simp [Binary64.isFinite])
  | finite s u h =>
      rw [formatReal, NumberFormat.ofText, NumberFormat.write, hstyle]
      rfl

/-- What is shown plainly is read back as the same value. -/
theorem Value.read_renderContent {value : Value} {p : Presentation} (hp : p.Bare value.kind)
    (hfinite : ∀ x, value = .number x → x.isFinite = true) {separators : Separators} {decimal : Char}
    (hseparator : separators.decimal = [decimal]) (hdigit : decimal.isDigit = false)
    (hminus : decimal ≠ '-') :
    Value.read value.kind decimal (renderContent p separators value) = .ok value := by
  obtain ⟨letter, _, hgeneral, _, hread⟩ := hp
  cases value with
  | bool flag =>
      obtain rfl := Except.ok.inj hread
      cases flag with
      | false => rfl
      | true => rfl
  | integer n =>
      obtain rfl := Except.ok.inj hread
      show (readInteger (formatInteger n)).map Value.integer = .ok (.integer n)
      rw [readInteger_formatInteger]
      rfl
  | number x =>
      obtain rfl := Except.ok.inj hread
      have hx := hfinite x rfl
      show (readNumber decimal (formatReal x [letter] separators)).map Value.number = .ok (.number x)
      rw [formatReal_general (hgeneral rfl) hx, hseparator, Binary64.readNumber_shortest hx hdigit hminus]
      rfl
  | text t =>
      obtain rfl := Except.ok.inj hread
      rfl

namespace Node

variable {n : Node} {settings : Settings} {log : List Attempt}

/-- A variable with a value shows it, and gives it back where the same value is read from a text. -/
theorem Follows.setInput_of_read (h : n.Follows settings log) {v : Variable} (hv : v ∈ n.declared)
    {value : Value} (hvalue : v.binding.bind n.inputs.value = some value) :
    value.kind = v.kind
      ∧ ∀ raw, Value.read v.kind n.decimal raw = .ok value → n.setInput v.name raw = (.ok (), n) := by
  obtain ⟨handle, hfind, hbinding, hkind, _⟩ := exists_findInput h.serves h.nodup hv
  rw [hbinding] at hvalue
  have hstored : n.inputs.value handle = some value := hvalue
  refine ⟨(InputBank.kind_of_value hstored).trans hkind, fun raw hread => ?_⟩
  rw [setInput, hfind]
  simp only [hkind, hread, store, InputBank.put?_of_value hstored, Option.getD_some]

/-- Whatever was done to a node, what a plain token of a variable shows can be given back to the input of the
variable, and that changes nothing. -/
theorem setInput_rendered {opening : List Operation} (hmade : Made settings opening n)
    (ops : List Operation) (hdigit : (n.run ops).decimal.isDigit = false)
    (hminus : (n.run ops).decimal ≠ '-') {v : Variable} (hv : v ∈ (n.run ops).declared)
    (hbare : v.presentation.Bare v.kind) {value : Value}
    (hvalue : v.binding.bind (n.run ops).inputs.value = some value)
    (hfinite : ∀ x, value = .number x → x.isFinite = true) {token : Token}
    (hshown : token.shown? = some v) (hpresentation : token.presentation? = some v.presentation) :
    ∃ s, renderToken (n.run ops).inputs (n.run ops).separators token = .ok s
      ∧ (n.run ops).setInput v.name s = (.ok (), n.run ops) := by
  have h : (n.run ops).Follows settings (Draft.attempts ⟨settings, []⟩ (opening ++ ops)) := by
    rw [hmade.run_eq]
    exact (follows_ofSettings settings).run (opening ++ ops)
  have hseparator := Separators.decimalChar?_eq_some_iff.mp h.snapshot.decimal_eq
  obtain ⟨hkind, hgive⟩ := h.setInput_of_read hv hvalue
  refine ⟨_, renderToken_of_shown? hshown hpresentation, hgive _ ?_⟩
  rw [hvalue, ← hkind]
  rw [← hkind] at hbare
  exact Value.read_renderContent hbare hfinite hseparator hdigit hminus

/-- A negative number with an `e` for its separator, in a node that went stale. -/
theorem setInput_rendered_of_odd_separator :
    let settings : Settings := { separators := { group := [], decimal := ['e'] } }
    let texts := ["{a:G} {b:S}".toList, "{a}".toList]
    let ops : List Operation :=
      [.setInput "a".toList " -2e5".toList, .edit (.template 1 "{b:Q}".toList)]
    let n := ((ofSettings settings).setTemplates texts).2
    let v : Variable :=
      { kind := .number, name := ['a'], isGenerated := false, presentation := { format := ['G'] },
        binding := some ⟨.number, 0⟩ }
    Made settings [.edit (.templates texts)] n
      ∧ (n.run ops).decimal.isDigit = false ∧ (n.run ops).decimal ≠ '-'
      ∧ v ∈ (n.run ops).declared ∧ v.presentation.Bare v.kind
      ∧ v.binding.bind (n.run ops).inputs.value = some (.number (.ofInt (-5) / .ofNat 2))
      ∧ renderToken (n.run ops).inputs (n.run ops).separators (.declared v) = .ok "-2e5".toList
      ∧ (n.run ops).setInput v.name "-2e5".toList = (.ok (), n.run ops) := by
  intro settings texts ops n v
  have hmade : Made settings [.edit (.templates texts)] n := .templates rfl
  have hdigit : (n.run ops).decimal.isDigit = false := by decide +kernel
  have hminus : (n.run ops).decimal ≠ '-' := by decide +kernel
  have hv : v ∈ (n.run ops).declared := by decide +kernel
  have hbare : v.presentation.Bare v.kind := ⟨'G', by decide, fun _ => by decide, ',', rfl⟩
  have hvalue : v.binding.bind (n.run ops).inputs.value = some (.number (.ofInt (-5) / .ofNat 2)) := by
    decide +kernel
  have hfinite : ∀ x, Value.number (.ofInt (-5) / .ofNat 2) = .number x → x.isFinite = true := by
    intro x hx
    obtain rfl := Value.number.inj hx
    decide +kernel
  have hshows : renderToken (n.run ops).inputs (n.run ops).separators (.declared v) = .ok "-2e5".toList := by
    decide +kernel
  obtain ⟨s, hs, hset⟩ := setInput_rendered hmade ops hdigit hminus hv hbare hvalue hfinite
    (rfl : (Token.declared v).shown? = some v) rfl
  obtain rfl := Except.ok.inj (hshows.symm.trans hs)
  exact ⟨hmade, hdigit, hminus, hv, hbare, hvalue, hshows, hset⟩

end Node

end TypedTemplate
