import Parley.Proofs.Json.Indented
import Parley.Proofs.Text.Utf8
import Parley.Proofs.Token.Moment
import Parley.Token.Store

/-!
# Deposits read back

A token comes out of its file as it went in, whatever its characters, with the moment at which it
was saved.
-/

namespace Parley.Token

namespace Deposit

/-- A text of a moment is read as the moment. -/
theorem readsBack_moment (depth : Nat) {moment : Moment} (proper : moment.IsProper) :
    (Json.Decoder.text.refine Moment.parse?).ReadsBack depth moment (.string moment.render) := by
  intro rest breaks
  have read := Json.Decoder.readsBack_text depth moment.render rest breaks
  simp only [Json.Decoder.refine, read, Moment.parse_render proper]

theorem parse_render {deposit : Deposit} (proper : deposit.savedAt.IsProper) :
    parse deposit.render = .ok deposit := by
  let other := fun (_ : String) (value : Deposit) text => do
    Except.ok (value, ← Json.skipValue text)
  have readsToken := Json.Record.readsMembers_field record other ⟨record.start, []⟩
    (show record.fields.find? (·.key == "token") = some _ from rfl) List.not_mem_nil
    (Json.Decoder.readsBack_text 126 deposit.token)
  have readsMoment := Json.Record.readsMembers_field record other
    ⟨{ record.start with token := deposit.token }, ["token"]⟩
    (show record.fields.find? (·.key == "saved_at") = some _ from rfl)
    (show "saved_at" ∉ ["token"] by decide) (readsBack_moment 126 proper)
  refine Json.Record.parse_renderIndented ?_ (readsToken.append readsMoment) rfl
  intro key member
  rcases List.mem_cons.mp member with rfl | member
  · exact ⟨_, rfl, fun _ => rfl⟩
  · rw [List.mem_singleton.mp member]
    exact ⟨_, rfl, fun _ => rfl⟩

end Deposit

end Parley.Token
