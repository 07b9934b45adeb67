import BundleHost.Message.Json
import BundleHost.Proofs.Hook.RoundTrip
import BundleHost.Proofs.Json.RoundTrip

/-!
# Messages there and back

A message is decoded from the document that it is encoded as, and read from the JSON text that it
is written as.

## Main statements

* `Request.ofJson_toJson`, `Reply.ofJson?_toJson`.
-/

namespace BundleHost

open Decoder
open Json (Plain)

/-! ## Documents -/

/-- The counts of a request have 64 bits. -/
def Request.IsCounted : Request → Prop
  | .finish report => report.IsCounted
  | _ => True

theorem Request.decode_encode {request : Request} (counted : request.IsCounted) :
    decode request.encode = .ok request := by
  have other : formKey ∉ Entries.keys request.encodeContent := by
    cases request <;>
      simp [formKey, encodeContent, Entries.keys, ResolveRequest.encodeEntries,
        LoadRequest.encodeEntries, EndReport.encodeEntries]
  have form : Decoder.tag Form.ofName? (.text request.form.name) = .ok request.form :=
    inverts_tag (fun form => by cases form <;> rfl) request.form
  rw [decode, encode, tagged_table form other]
  cases request with
  | start => rfl
  | resolve request =>
    simp [Request.form, decodeContent, encodeContent, ResolveRequest.decode_entries, ok_bind]
  | load request =>
    simp [Request.form, decodeContent, encodeContent, LoadRequest.decode_entries, ok_bind]
  | finish report =>
    have read : EndReport.decode (.table report.encodeEntries) = .ok report :=
      EndReport.decode_entries counted
    simp [Request.form, decodeContent, encodeContent, read, ok_bind]

theorem Reply.decodeAnswer_table {α : Type} {decode : Decoder α} {encode : α → Document}
    (h : Inverts decode encode) (plugin : String) (answer absent : α) :
    decodeAnswer decode absent (.table [("plugin", .text plugin), ("outcome", encode answer)]) =
      .ok (plugin, answer) := by
  have fits : List.Forall₂ Fits (answerFields decode)
      [("plugin", .text plugin), ("outcome", encode answer)] :=
    .cons (fits_field _ _ (inverts_text _)) <|
    .cons (fits_field _ _ (h answer)) .nil
  obtain ⟨found, read, value⟩ := record_of_fits (by simp [answerFields, field]) fits
  simp only [List.forall_mem_cons] at value
  simp [decodeAnswer, read, Decoder.get, value, inverts_text _, h answer, ok_bind]

theorem Reply.decode_encode (reply : Reply) : decode reply.encode = .ok reply := by
  have other : Request.formKey ∉ Entries.keys reply.encodeContent := by
    cases reply <;> simp [Request.formKey, encodeContent, Entries.keys]
  have form : Decoder.tag Form.ofName? (.text reply.form.name) = .ok reply.form :=
    inverts_tag (fun form => by cases form <;> rfl) reply.form
  rw [decode, encode, tagged_table form other]
  cases reply with
  | started => rfl
  | unhandled => rfl
  | ended => rfl
  | resolved plugin answer =>
    simp [Reply.form, decodeContent, encodeContent, ok_bind,
      decodeAnswer_table ResolveAnswer.inverts]
  | loaded plugin answer =>
    simp [Reply.form, decodeContent, encodeContent, ok_bind, decodeAnswer_table LoadAnswer.inverts]
  | failed failure =>
    have fits : List.Forall₂ Fits [field "error" .required (HookFailure.decode true)]
        [("error", failure.encode)] :=
      .cons (fits_field _ _ (HookFailure.inverts true failure)) .nil
    obtain ⟨found, read, value⟩ := record_of_fits (by simp) fits
    simp only [List.forall_mem_cons] at value
    simp [Reply.form, decodeContent, encodeContent, ok_bind, read, Decoder.get, value,
      HookFailure.inverts true failure]

/-! ## Texts -/

theorem plain_ofOption {α : Type} {depth : Nat} {encode : α → Document}
    (h : ∀ a, Plain depth (encode a)) (value : Option α) :
    Plain depth (.ofOption encode value) := by
  cases value with
  | none => exact .null
  | some a => exact h a

theorem plain_texts {depth : Nat} (texts : List String) : Plain (depth + 1) (.texts texts) := by
  refine .list fun document mem => ?_
  obtain ⟨text, _, rfl⟩ := List.mem_map.mp mem
  exact .text text

theorem Request.plain_encode {request : Request} (counted : request.IsCounted) (depth : Nat) :
    Plain (depth + 1) request.encode := by
  refine .table ?_
  cases request with
  | start => simp [form, encodeContent, Plain.text]
  | resolve request =>
    simp [encodeContent, ResolveRequest.encodeEntries, Plain.text, plain_ofOption Plain.text,
      ResolveKind.encode]
  | load request => simp [encodeContent, LoadRequest.encodeEntries, Plain.text]
  | finish report =>
    have word : Json.IsWord report.warningCount :=
      ⟨by omega, Int.ofNat_lt.mpr counted⟩
    simp [encodeContent, EndReport.encodeEntries, Plain.text, Plain.bool, Plain.int word]

theorem ResolveAnswer.plain_encode (answer : ResolveAnswer) (depth : Nat) :
    Plain (depth + 2) answer.encode := by
  refine .table ?_
  simp [Plain.text, Plain.bool, plain_ofOption Plain.text, plain_ofOption Plain.bool, plain_texts]

theorem LoadAnswer.plain_encode (answer : LoadAnswer) (depth : Nat) :
    Plain (depth + 2) answer.encode := by
  refine .table ?_
  simp [Plain.text, plain_ofOption Plain.text, plain_texts, Enumeration.encode]

theorem HookFailure.plain_encode (failure : HookFailure) (depth : Nat) :
    Plain (depth + 1) failure.encode := by
  refine .table ?_
  cases failure <;> simp [encodeContent, Plain.text, HookStage.encode]

theorem Reply.plain_encode (reply : Reply) (depth : Nat) : Plain (depth + 3) reply.encode := by
  refine .table ?_
  cases reply <;>
    simp [encodeContent, Plain.text, ResolveAnswer.plain_encode, LoadAnswer.plain_encode,
      HookFailure.plain_encode]

theorem Request.ofJson_toJson {request : Request} (counted : request.IsCounted) :
    ofJson request.toJson = .ok request := by
  rw [ofJson, toJson, Json.parse?_print (plain_encode counted 126)]
  exact decode_encode counted

theorem Reply.ofJson?_toJson (reply : Reply) : ofJson? reply.toJson = some reply := by
  rw [ofJson?, toJson, Json.parse?_print (plain_encode reply 124)]
  change (decode reply.encode).toOption = some reply
  rw [decode_encode]
  rfl

end BundleHost
