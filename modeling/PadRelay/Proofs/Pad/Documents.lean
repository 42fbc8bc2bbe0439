import PadRelay.Proofs.Pad.Forms

/-!
# PadRelay.Proofs.Pad.Documents

Updates and the documents that carry them.

* `json`: the bytes of the document that is written for an update.
* `decode_of_document`: every text of an object that carries an update is decoded as this update,
  whatever its layout; the written document is such a text.
* `decode_json`: the written document is decoded as its update also behind blanks.
* `le_of_mem_json`: it holds no control character, whatever the texts of the update hold.
-/

namespace PadRelay
namespace Pad

open Json
open Json.Codec

def json (u : Update) : Bytes := Text.utf8 (document.encode u)

theorem json_eq_wire (u : Update) : json u = wire (documentSchema.write u) := by
  rw [json, utf8_eq_wire, Codec.encode, String.toList_ofList]
  rfl

/-! ## Texts -/

theorem decode_of_form {u : Update} {v : Tree} {doc : String} (hform : documentForm u v)
    (hdoc : Document v doc.toList) : document.decode (Text.utf8 doc) = .ok u := by
  cases hdoc with
  | element hfront hvalue hbehind =>
    have hread := document_faithful.read hform hfront hvalue (hbehind.delimited delimited_nil)
    have hend := hbehind.skipBlank
    rw [utf8_eq_wire, decode, hread]
    simp only [hend]
    rfl

theorem document_encode (u : Update) :
    ∃ v, documentForm u v ∧ Document v (document.encode u).toList := by
  obtain ⟨v, hform, hvalue⟩ := document_faithful.write u
  refine ⟨v, hform, ?_⟩
  have hdoc := hvalue []
  rw [List.append_nil] at hdoc
  rw [encode, String.toList_ofList]
  exact .element .none hdoc .none

/-- Every text of an object that carries an update is decoded as this update. What is written for
the update is such a text. -/
theorem decode_of_document (u : Update) :
    (∀ (v : Tree) (doc : String), documentForm u v → Document v doc.toList →
      document.decode (Text.utf8 doc) = .ok u) ∧
    (∃ v, documentForm u v ∧ Document v (document.encode u).toList) ∧
    document.decode (json u) = .ok u := by
  obtain ⟨v, hform, hdoc⟩ := document_encode u
  refine ⟨fun v doc => decode_of_form, ⟨v, hform, hdoc⟩, ?_⟩
  exact decode_of_form hform hdoc

/-- Members in another order and among others, with a blank, an escape and a `null`. -/
theorem decode_of_document_reordered :
    document.decode (Text.utf8
      "\x7b\"x\":[1E5,\"\\ud800\"], \"padUpdate\":\x7b\"log\":\x7b\x7d,\"now\":null,\"mode\":\"A\\u0042\"\x7d\x7d") =
      .ok { Update.blank with mode := some "AB", log := some ⟨none⟩ } := by
  have hdigit : ∀ d : Char, d.isDigit = true → DigitRun [d] :=
    fun d hd => ⟨List.cons_ne_nil _ _, List.forall_mem_singleton.mpr hd⟩
  have hpower : Numeral ['1', 'E', '5'] := by
    refine ⟨[], ['1'], [], ['E', '5'], .inl rfl, ?_, .inl rfl, .inr ?_, rfl⟩
    · exact .inr ⟨hdigit '1' rfl, by decide⟩
    · exact ⟨'E', [], ['5'], .inr rfl, .inl rfl, hdigit '5' rfl, rfl⟩
  refine (decode_of_document _).1 (.object [
    (units "x", .list [.number ['1', 'E', '5'], .text [0xD800]]),
    (units "padUpdate", .object [(units "log", .object []), (units "now", .null),
      (units "mode", .text (units "AB"))])]) _ ?form ?text
  case form =>
    refine ⟨[.padUpdate], _, rfl, .other ?_ (.own (m := DocumentMember.padUpdate) (by decide)
      ⟨[.log, .now, .mode], _, rfl,
        .own (m := Update.Member.log) (by decide) ⟨[], _, rfl, .none, fun _ _ => rfl⟩
          (.own (m := Update.Member.now) (by decide) rfl
            (.own (m := Update.Member.mode) (by decide) rfl .none)), ?_⟩ .none), ?_⟩
    · intro m
      cases m
      decide
    · intro m hm
      cases m <;> first | rfl | exact absurd (by decide) hm
    · intro m hm
      cases m
      exact absurd (by decide) hm
  case text =>
    have hextra : ∀ t, Written (.value (.list [.number ['1', 'E', '5'], .text [0xD800]]))
        ("[1E5,\"\\ud800\"]".toList ++ t) t := by
      intro t
      exact .list (.nextElement (.bare (.number hpower))
        (.lastElement (.bare (.text (.hex rfl .done)))))
    refine .bare (.object (.nextMember (.named "x" (.bare (hextra _))) (.lastMember
      (.member (.more (by decide) .none) (spells_units "padUpdate" _) .none (.bare (.object
        (.nextMember (.named "log" (.bare (.emptyObject .none)))
          (.nextMember (.named "now" (.bare .null))
            (.lastMember (.named "mode" (.bare (.text ?_))))))))))))
    exact .plain (c := 'A') rfl (.hex rfl .done)

/-! ## Written documents -/

theorem decode_json {blanks : Bytes} (h : ∀ b ∈ blanks, isBlank b = true) (u : Update) :
    document.decode (blanks ++ json u) = .ok u := by
  obtain ⟨v, hform, hdoc⟩ := document_encode u
  have hread : document.read (blanks ++ json u) = document.read (json u) :=
    Schema.read_of_blank h (json u)
  rw [decode, hread]
  exact decode_of_form hform hdoc

theorem le_of_mem_json (u : Update) : ∀ b ∈ json u, 32 ≤ b.toNat := by
  rw [json_eq_wire]
  exact le_of_mem_wire (document_faithful.printable u)

theorem json_eq_cons (u : Update) : ∃ bs, json u = byte '\x7b' :: bs :=
  ⟨_, (json_eq_wire u).trans (Schema.wire_write documentSchema u)⟩

end Pad
end PadRelay
