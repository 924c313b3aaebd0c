import PatchReview.Proofs.Encoding.Base64
import PatchReview.Proofs.Encoding.Utf8
import PatchReview.Proofs.Hosting.Replies

/-! The content of a file, as a host sends it. The bytes of a text in UTF-8 arrive as the text, and no others
arrive at all.
-/

namespace PatchReview.Hosting

variable {σ : Type}

/-- (reply.Holds bytes) says that a reply is about a file with these bytes: they are spelled in Base64, with
line breaks anywhere.
-/
structure Reply.Holds (reply : Reply) (bytes : List UInt8) : Prop where
  spelled : ∃ fields text,
    reply.json = .ok (.obj fields)
    ∧ (Assoc.get? "type" fields = none ∨ Assoc.get? "type" fields = some (.str "file"))
    ∧ Assoc.get? "encoding" fields = some (.str "base64")
    ∧ Assoc.get? "content" fields = some (.str text)
    ∧ Base64.Spells text bytes

namespace Client

variable {client : Client} {transport : Transport σ} {start reached : Connection σ} {reply : Reply}
  {bytes : List UInt8} {repository ref : Json} {path : String}

/-- The bytes in an answer about a file are decoded. -/
theorem contentOf_of_holds (holds : reply.Holds bytes)
    : reply.json >>= contentOf
      = ((Utf8.decode bytes).mapError .bytes).map fun text => some (.str text) := by
  obtain ⟨fields, text, read, type, encoding, content, spells⟩ := holds.spelled
  have isFile : (Json.getD fields "type" (.str "file")).same (.str "file") = true := by
    rcases type with absent | given
    · rw [Json.getD_of_none absent]
      rfl
    · rw [Json.getD_of_some given]
      rfl
  have isBase64 : (Json.getD fields "encoding" .null).same (.str "base64") = true := by
    rw [Json.getD_of_some encoding]
    rfl
  rw [read]
  show contentOf (.obj fields) = _
  simp only [contentOf, isFile, isBase64, Json.getD_of_some content, Base64.decode_of_spells spells,
    Bool.not_true, Bool.false_eq_true, if_true, if_false]
  show ((Utf8.decode bytes).mapError Failure.bytes >>= fun text => pure (some (Json.str text))) = _
  cases Utf8.decode bytes with
  | ok given => rfl
  | error fault => rfl

/-- A file is fetched by a single request, and its bytes are decoded. -/
theorem on_fetchFile_of_holds
    (asked : (client.request transport (contentsEndpoint repository path) [("ref", ref)]).on start
      = (.ok reply, reached))
    (holds : reply.Holds bytes)
    : (client.fetchFile transport repository ref (.str path)).on start
      = (((Utf8.decode bytes).mapError .bytes).map fun text => some (.str text), reached) := by
  have spelled : Json.textFor "lstrip" (.str path) = .ok path := rfl
  unfold fetchFile
  rw [spelled, Attempt.on_bind, Attempt.on_ofExcept]
  dsimp only
  rw [← contentsEndpoint, Attempt.on_outcome_bind asked]
  exact congrArg (fun read => (read, reached)) (contentOf_of_holds holds)

/-- Bytes that are a text in UTF-8 arrive as the text. -/
theorem fetchFile_eq_ok_iff
    (asked : (client.request transport (contentsEndpoint repository path) [("ref", ref)]).on start
      = (.ok reply, reached))
    (holds : reply.Holds bytes) (text : String)
    : (client.fetchFile transport repository ref (.str path)).on start = (.ok (some (.str text)), reached)
      ↔ bytes.toByteArray = text.toUTF8 := by
  rw [on_fetchFile_of_holds asked holds, ← Utf8.decode_eq_ok_iff]
  cases Utf8.decode bytes with
  | ok given => simp [Except.map, Except.mapError]
  | error fault => simp [Except.map, Except.mapError]

/-- Bytes that are no text in UTF-8 do not arrive. -/
theorem exists_fetchFile_eq_error
    (asked : (client.request transport (contentsEndpoint repository path) [("ref", ref)]).on start
      = (.ok reply, reached))
    (holds : reply.Holds bytes) (noText : ∀ text : String, bytes.toByteArray ≠ text.toUTF8)
    : ∃ fault,
        (client.fetchFile transport repository ref (.str path)).on start
          = (.error (.bytes fault), reached) := by
  rw [on_fetchFile_of_holds asked holds]
  cases decoded : Utf8.decode bytes with
  | ok text => exact absurd (Utf8.decode_eq_ok_iff.mp decoded) (noText text)
  | error fault => exact ⟨fault, rfl⟩

end Client

end PatchReview.Hosting
