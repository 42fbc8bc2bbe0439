import PadRelay.Proofs.Payload.Body

/-!
# PadRelay.Proofs.Payload.Pushed

Fields that are pushed one after the other.

* `foldl_push`: a payload is the list of what was pushed.
* `writeEntry_append_inj`: a field tells where it ends, whatever quotes, braces and line ends are in
  its key.
* `fields_append_inj`: hence fields are told apart from other fields, by induction on them.
* `pushed_faithful`: a posted text says what was pushed, and nothing else is posted as this text.
-/

namespace PadRelay
namespace Payload

open Json

/-- What may be pushed: a key, and a value between quotes with the code units it stands for. -/
@[ext] structure Pushed where
  key : String
  value : String
  content : List Nat
  spelled : Spells content value.toList []

def Pushed.entry (f : Pushed) : String × String := (f.key, f.value)

def Pushed.member (f : Pushed) : List Nat × Tree := (units f.key, .text f.content)

/-- A text that is escaped before it is pushed. -/
def Pushed.escaped (key text : String) : Pushed where
  key := key
  value := Escape.json.apply text
  content := units text
  spelled := by
    have hspells := spells_units text []
    rw [List.append_nil] at hspells
    rw [Escape.toList_apply]
    exact hspells

def pushed (fs : List Pushed) : Payload := fs.foldl (fun p f => p.push f.key f.value) empty

theorem foldl_push {α : Type} (key value : α → String) (as : List α) (p : Payload) :
    as.foldl (fun p a => p.push (key a) (value a)) p =
      ⟨p.entries ++ as.map fun a => (key a, value a)⟩ := by
  induction as generalizing p with
  | nil => simp
  | cons a as ih =>
    rw [List.foldl_cons, ih, push, List.map_cons, List.append_assoc, List.singleton_append]

theorem pushed_eq (fs : List Pushed) : pushed fs = ⟨fs.map Pushed.entry⟩ := by
  rw [pushed, foldl_push]
  rfl

/-- The fields of an update are pushed in line order. -/
theorem ofUpdate_eq_foldl_push (s : EncoderSettings) (u : Pad.Update) :
    ofUpdate s u =
      s.lines.foldl (fun p line => p.push line.key (resolveFields u line.value .json)) empty := by
  rw [foldl_push]
  rfl

/-! ## Where a field ends -/

theorem writeEntry_append_inj {f g : Pushed} {s t : List Char}
    (h : newline ++ writeEntry f.entry ++ s = newline ++ writeEntry g.entry ++ t) :
    f = g ∧ s = t := by
  rw [Pushed.entry, Pushed.entry, writeEntry_append, writeEntry_append] at h
  have hquoted := List.append_cancel_left (List.append_cancel_left (List.append_cancel_left h))
  obtain ⟨-, hkeys⟩ := List.cons.inj hquoted
  -- a quote in the key is escaped, so the first bare one ends it
  have hkey := spells_units g.key ('"' :: ':' :: ' ' :: '"' :: (g.value.toList ++ '"' :: t))
  rw [← hkeys] at hkey
  obtain ⟨hunits, hbehind⟩ := (spells_units f.key _).unique hkey
  simp only [List.cons.injEq, true_and] at hbehind
  have hvalue := g.spelled.append ('"' :: t)
  rw [← hbehind] at hvalue
  obtain ⟨hcontent, rfl⟩ := (f.spelled.append ('"' :: s)).unique hvalue
  have hvalues := String.toList_inj.mp (List.append_cancel_right hbehind)
  exact ⟨Pushed.ext (units_injective hunits) hvalues hcontent, rfl⟩

/-- Further fields, each behind its comma, up to a line end. -/
theorem commas_append_inj {fs gs : List Pushed} {s t : List Char}
    (h : fs.flatMap (fun f => [','] ++ (newline ++ writeEntry f.entry)) ++ (newline ++ s) =
      gs.flatMap (fun g => [','] ++ (newline ++ writeEntry g.entry)) ++ (newline ++ t)) :
    fs = gs := by
  induction fs generalizing gs with
  | nil =>
    cases gs with
    | nil => rfl
    | cons g gs =>
      simp only [List.flatMap_nil, List.flatMap_cons, newline, List.nil_append, List.cons_append,
        List.cons.injEq] at h
      exact absurd h.1 (by decide)
  | cons f fs ih =>
    cases gs with
    | nil =>
      simp only [List.flatMap_nil, List.flatMap_cons, newline, List.nil_append, List.cons_append,
        List.cons.injEq] at h
      exact absurd h.1 (by decide)
    | cons g gs =>
      simp only [List.flatMap_cons, List.append_assoc] at h
      have hfields := List.append_cancel_left h
      simp only [← List.append_assoc newline (writeEntry _)] at hfields
      obtain ⟨rfl, hmore⟩ := writeEntry_append_inj hfields
      rw [ih hmore]

theorem fields_append_inj {fs gs : List Pushed} {s t : List Char}
    (h : fields (fs.map Pushed.entry) ++ '\x7d' :: s =
      fields (gs.map Pushed.entry) ++ '\x7d' :: t) : fs = gs := by
  cases fs with
  | nil =>
    cases gs with
    | nil => rfl
    | cons g gs =>
      simp only [fields, newline, List.map_nil, List.map_cons, intercalate_cons, List.nil_append,
        List.cons_append, List.cons.injEq] at h
      exact absurd h.1 (by decide)
  | cons f fs =>
    cases gs with
    | nil =>
      simp only [fields, newline, List.map_nil, List.map_cons, intercalate_cons, List.nil_append,
        List.cons_append, List.cons.injEq] at h
      exact absurd h.1 (by decide)
    | cons g gs =>
      simp only [fields, List.map_cons, intercalate_cons, List.append_assoc, List.flatMap_map] at h
      simp only [← List.append_assoc newline (writeEntry _)] at h
      obtain ⟨rfl, hmore⟩ := writeEntry_append_inj h
      rw [commas_append_inj hmore]

/-! ## What is posted -/

theorem document_pushed (fs : List Pushed) :
    Document (.object [(units "Metadata", .object (fs.map Pushed.member))])
      (pushed fs).toJson.toList := by
  rw [pushed_eq]
  exact document_entries Pushed.entry Pushed.content fun f _ => f.spelled

/-- An escaped text is what its member says. -/
theorem document_push_escaped (key text : String) :
    Document (.object [(units "Metadata", .object [(units key, .text (units text))])])
      (empty.push key (Escape.json.apply text)).toJson.toList :=
  document_pushed [Pushed.escaped key text]

/-- Different lists are posted as different texts, also where they say the same. -/
theorem toJson_pushed_injective : Function.Injective fun fs => (pushed fs).toJson := by
  intro fs gs h
  have hwritten : (pushed fs).write = (pushed gs).write := String.ofList_injective h
  rw [pushed_eq, pushed_eq, write_eq, write_eq] at hwritten
  simp only [List.cons.injEq, true_and, List.append_cancel_left_eq] at hwritten
  exact fields_append_inj hwritten

/-- **Posting is faithful.** Whatever keys and text literals are pushed, the posted text is passed
over as one value, and says nothing but them: they are the members of the inner object in the order
they were pushed in, equal ones included. The empty payload has an empty object there. Another list
is posted as another text. -/
theorem pushed_faithful :
    (∀ fs : List Pushed,
      (∃ rest, skipValue (wire (pushed fs).toJson.toList) = .ok rest ∧ skipBlank rest = []) ∧
      ∀ v, Document v (pushed fs).toJson.toList ↔
        v = .object [(units "Metadata", .object (fs.map Pushed.member))]) ∧
    (∀ v, Document v empty.toJson.toList ↔ v = .object [(units "Metadata", .object [])]) ∧
    Function.Injective (fun fs => (pushed fs).toJson) := by
  have hsays : ∀ (fs : List Pushed) v, Document v (pushed fs).toJson.toList ↔
      v = .object [(units "Metadata", .object (fs.map Pushed.member))] := by
    intro fs v
    constructor
    · intro h
      exact h.unique (document_pushed fs)
    · rintro rfl
      exact document_pushed fs
  refine ⟨fun fs => ⟨?_, hsays fs⟩, hsays [], toJson_pushed_injective⟩
  exact skipValue_of_document (document_pushed fs)

end Payload
end PadRelay
