import BundleHost.Hook.Coding
import BundleHost.Proofs.Decoder
import BundleHost.Proofs.Enumeration

/-!
# Hook records there and back

Requests, answers and failures are decoded from what they are encoded as, whatever texts they hold
and whichever of their fields are absent. Only the count in a report on the end has to fit into 64
bits.
-/

namespace BundleHost

open Decoder

theorem inverts_optionalText : Inverts (optional text) (Document.ofOption .text) :=
  inverts_text.optional nofun

theorem inverts_optionalBool : Inverts (optional bool) (Document.ofOption .bool) :=
  inverts_bool.optional nofun

theorem inverts_texts : Inverts (list text) Document.texts := inverts_text.list

theorem inverts_loader : Inverts (Enumeration.decode : Decoder Loader) Enumeration.encode :=
  Enumeration.decode_encode

theorem ResolveKind.inverts (tagged : Bool) : Inverts (decode tagged) encode :=
  inverts_variant (fun kind => by cases kind <;> rfl) tagged

theorem HookStage.inverts (tagged : Bool) : Inverts (decode tagged) encode :=
  inverts_variant (fun stage => by cases stage <;> rfl) tagged

/-! ## Requests -/

theorem ResolveRequest.decode_entries (tagged : Bool) (request : ResolveRequest) :
    decode tagged (.table request.encodeEntries) = .ok request := by
  have fits : List.Forall₂ Fits (fields tagged) request.encodeEntries :=
    .cons (fits_field _ _ (inverts_text _)) <|
    .cons (fits_field _ _ (inverts_optionalText _)) <|
    .cons (fits_field _ _ (inverts_text _)) <|
    .cons (fits_field _ _ (inverts_optionalText _)) <|
    .cons (fits_field _ _ (ResolveKind.inverts tagged _)) .nil
  obtain ⟨found, read, value⟩ := record_of_fits (by simp [fields, field]) fits
  simp only [encodeEntries, List.forall_mem_cons] at value
  simp [decode, read, Decoder.get, value, inverts_text _, inverts_optionalText _,
    ResolveKind.inverts tagged _, ok_bind]

theorem LoadRequest.decode_entries (request : LoadRequest) :
    decode (.table request.encodeEntries) = .ok request := by
  have fits : List.Forall₂ Fits fields request.encodeEntries :=
    .cons (fits_field _ _ (inverts_text _)) <|
    .cons (fits_field _ _ (inverts_text _)) .nil
  obtain ⟨found, read, value⟩ := record_of_fits (by simp [fields, field]) fits
  simp only [encodeEntries, List.forall_mem_cons] at value
  simp [decode, read, Decoder.get, value, inverts_text _, ok_bind]

/-- Counts have 64 bits. -/
def EndReport.IsCounted (report : EndReport) : Prop := report.warningCount < UInt64.size

theorem EndReport.decode_entries {report : EndReport} (counted : report.IsCounted) :
    decode (.table report.encodeEntries) = .ok report := by
  have read_count : count (.int report.warningCount) = .ok report.warningCount :=
    natBelow_int counted
  have fits : List.Forall₂ Fits fields report.encodeEntries :=
    .cons (fits_field _ _ (inverts_bool _)) <|
    .cons (fits_field _ _ read_count) .nil
  obtain ⟨found, read, value⟩ := record_of_fits (by simp [fields, field]) fits
  simp only [encodeEntries, List.forall_mem_cons] at value
  simp [decode, read, Decoder.get, value, inverts_bool _, read_count, ok_bind]

/-! ## Answers -/

theorem ResolveAnswer.inverts : Inverts decode encode := by
  intro answer
  have fits : List.Forall₂ Fits fields
      [("path", .text answer.path), ("namespace", .ofOption .text answer.space),
       ("external", .bool answer.external), ("side_effects", .ofOption .bool answer.sideEffects),
       ("warnings", .texts answer.warnings)] :=
    .cons (fits_field _ _ (inverts_text _)) <|
    .cons (fits_field _ _ (inverts_optionalText _)) <|
    .cons (fits_field _ _ (inverts_bool _)) <|
    .cons (fits_field _ _ (inverts_optionalBool _)) <|
    .cons (fits_field _ _ (inverts_texts _)) .nil
  obtain ⟨found, read, value⟩ := record_of_fits (by simp [fields, field]) fits
  simp only [List.forall_mem_cons] at value
  simp [decode, encode, read, Decoder.get, value, inverts_text _, inverts_optionalText _,
    inverts_bool _, inverts_optionalBool _, inverts_texts _, ok_bind]

theorem LoadAnswer.inverts : Inverts decode encode := by
  intro answer
  have fits : List.Forall₂ Fits fields
      [("contents", .text answer.contents), ("loader", Enumeration.encode answer.loader),
       ("resolve_dir", .ofOption .text answer.resolveDir), ("warnings", .texts answer.warnings)] :=
    .cons (fits_field _ _ (inverts_text _)) <|
    .cons (fits_field _ _ (inverts_loader _)) <|
    .cons (fits_field _ _ (inverts_optionalText _)) <|
    .cons (fits_field _ _ (inverts_texts _)) .nil
  obtain ⟨found, read, value⟩ := record_of_fits (by simp [fields, field]) fits
  simp only [List.forall_mem_cons] at value
  simp [decode, encode, read, Decoder.get, value, inverts_text _, inverts_optionalText _,
    inverts_loader _, inverts_texts _, ok_bind]

/-! ## Failures -/

theorem HookFailure.inverts_kind (tagged : Bool) :
    Inverts (Kind.decode tagged) fun kind => .text kind.name := by
  intro kind
  exact inverts_tag (fun kind => by cases kind <;> rfl) kind

theorem HookFailure.fits (failure : HookFailure) :
    List.Forall₂ Fits (fields failure.kind) failure.encodeContent := by
  have text (name content : String) : Fits (field name .required text) (name, .text content) :=
    fits_field _ _ (inverts_text _)
  cases failure with
  | startFailed plugin message => exact .cons (text _ _) (.cons (text _ _) .nil)
  | handlerFailed plugin stage message =>
    exact .cons (text _ _) (.cons (fits_field _ _ (HookStage.inverts true _))
      (.cons (text _ _) .nil))
  | unresolvedLoad path space => exact .cons (text _ _) (.cons (text _ _) .nil)
  | malformedRequest message => exact .cons (text _ _) .nil

theorem HookFailure.inverts (tagged : Bool) : Inverts (decode tagged) encode := by
  intro failure
  have other : "kind" ∉ Entries.keys failure.encodeContent := by
    cases failure <;> simp [encodeContent, Entries.keys]
  have names : ((fields failure.kind).map (·.name)).Nodup := by
    cases failure <;> simp [fields, kind, plugin, field]
  obtain ⟨found, read, value⟩ := record_of_fits names failure.fits
  rw [decode, encode, tagged_table (inverts_kind tagged failure.kind) other, decodeContent, read]
  cases failure <;>
    simp only [encodeContent, List.forall_mem_cons] at value <;>
    simp [kind, Decoder.get, value, inverts_text _, HookStage.inverts true _, ok_bind]

end BundleHost
