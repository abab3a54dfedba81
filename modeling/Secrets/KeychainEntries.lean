import Secrets.KeychainMap

set_option autoImplicit false

namespace Secrets

open Std (ExtTreeMap)
open Programs Storage
open Framing (Bytes)

namespace Keychain

-- What a read owes its caller for what an entry holds: the parts of the layout,
-- or a fault.
structure Decodes (blob : Bytes) (result : Except StorageError Revealed) : Prop where
  laid : ∀ (version : Uuid) (value : SecretValue), blob = blobOf version value.bytes → result = .ok ⟨value, some (versionOf version)⟩
  other : (∀ (version : Uuid) (value : SecretValue), blob ≠ blobOf version value.bytes) → result = .error .unavailable

def Oversized (blob : Bytes) : Prop := blob.head? = some FORMAT ∧ HEADER + maxValueBytes < blob.length

section Layout

theorem header_parts (blob : Bytes) (long : HEADER ≤ blob.length) (format : blob.head? = some FORMAT) :
    ∃ version : Uuid, uuidFromSlice ((blob.take HEADER).drop 1) = some version ∧ blob = blobOf version (blob.drop HEADER) := by
  cases blob with
  | nil => cases format
  | cons first rest =>
      cases format
      have length : ((List.cons FORMAT rest).take HEADER).drop 1 = rest.take 16 := rfl
      have sixteen : (rest.take 16).length = 16 := by
        rw [List.length_take]
        rw [List.length_cons, HEADER] at long
        omega
      refine ⟨⟨(rest.take 16).toArray, sixteen⟩, ?_, ?_⟩
      · rw [length, uuidFromSlice, dif_pos sixteen]
      · change FORMAT :: rest = FORMAT :: (rest.take 16).toArray.toList ++ rest.drop 16
        rw [List.toList_toArray, List.cons_append, List.take_append_drop]

theorem blob_of_length (version : Uuid) (value : Bytes) : (blobOf version value).length = HEADER + value.length := by
  have sixteen : version.toList.length = 16 := by simp
  rw [blobOf, List.length_append, List.length_cons, sixteen, HEADER]

theorem open_blob_cases (blob : Bytes) :
    (openBlob blob = .error .unavailable ∧ ∀ (version : Uuid) (value : Bytes), blob ≠ blobOf version value) ∨
      ∃ version value, blob = blobOf version value ∧ openBlob blob = .ok (versionOf version, value) := by
  by_cases whole : blob.length < HEADER ∨ blob.head? ≠ some FORMAT
  · left
    rw [openBlob, if_pos whole]
    refine ⟨rfl, ?_⟩
    intro version value same
    rw [same, blob_of_length] at whole
    rcases whole with short | format
    · omega
    · exact format rfl
  · right
    obtain ⟨long, format⟩ := not_or.mp whole
    obtain ⟨version, _, parts⟩ := header_parts blob (Nat.le_of_not_lt long) (not_not.mp format)
    refine ⟨version, blob.drop HEADER, parts, ?_⟩
    rw [parts, open_blob, ← parts]

theorem blob_of_injective (first second : Uuid) (left right : Bytes) (same : blobOf first left = blobOf second right) :
    first = second ∧ left = right := by
  have opened := open_blob first left
  rw [same, open_blob second right] at opened
  obtain ⟨versions, values⟩ := Prod.mk.inj (Except.ok.inj opened)
  exact ⟨(version_of_injective _ _ versions).symm, values.symm⟩

end Layout

def revealedOf (blob : Bytes) : Except StorageError Revealed := do
  let opened ← openBlob blob
  let value ← SecretValue.new opened.2
  pure ⟨value, some opened.1⟩

theorem opened_blob (blob : Bytes) :
    ((Prog.lift (openBlob blob) >>= fun opened => Prog.lift (SecretValue.new opened.2) >>= fun value => pure ⟨value, some opened.1⟩ :
      Operation Revealed)) = Prog.lift (revealedOf blob) := by
  rw [revealedOf]
  cases openBlob blob with
  | error error => rfl
  | ok opened =>
      rw [Prog.lift, Prog.done_bind]
      change _ = Prog.lift (SecretValue.new opened.2 >>= fun value => pure (⟨value, some opened.1⟩ : Revealed))
      cases SecretValue.new opened.2 <;> rfl

theorem read_run (search : Search) (drawn : Uuid) (service : String) (ring : Ring) (target : Target) (blob : Bytes)
    (found : ring[place service target.address]? = some blob) :
    operate search service (.read target) drawn ring = (revealedOf blob, ring) := by
  have ran : operate search service (.read target) drawn ring = _ :=
    (run_entry search drawn service ring target.address _).trans (run_get search drawn ring _ _)
  rw [found, Option.elim_some] at ran
  rw [ran, revealedOf]
  cases openBlob blob with
  | error error => rfl
  | ok opened =>
      rw [Prog.lift, Prog.done_bind]
      dsimp only
      cases made : SecretValue.new opened.2 with
      | error error =>
          change _ = ((SecretValue.new opened.2 >>= fun value => pure ⟨value, some opened.1⟩ : Except StorageError Revealed), ring)
          rw [made]
          rfl
      | ok value =>
          change _ = ((SecretValue.new opened.2 >>= fun value => pure ⟨value, some opened.1⟩ : Except StorageError Revealed), ring)
          rw [made]
          rfl

theorem revealed_blob (version : Uuid) (value : Bytes) :
    revealedOf (blobOf version value) = (SecretValue.new value >>= fun value => pure ⟨value, some (versionOf version)⟩) := by
  rw [revealedOf, open_blob]
  rfl

theorem revealed_decodes (blob : Bytes) : Decodes blob (revealedOf blob) ↔ ¬Oversized blob := by
  rcases open_blob_cases blob with ⟨fault, none⟩ | ⟨version, value, same, opened⟩
  · have fails : revealedOf blob = .error .unavailable := by
      rw [revealedOf, fault]
      rfl
    constructor
    · intro _ ⟨format, long⟩
      have header : HEADER ≤ blob.length := Nat.le_trans (Nat.le_add_right _ _) long.le
      obtain ⟨version, _, parts⟩ := header_parts blob header format
      exact none version _ parts
    · intro _
      exact ⟨fun version value same => absurd same (none version value.bytes), fun _ => fails⟩
  · rw [same, revealed_blob]
    by_cases short : value.length ≤ maxValueBytes
    · have made : SecretValue.new value = .ok ⟨value, short⟩ := (secret_value_new ⟨value, short⟩ value).mpr rfl
      rw [made]
      constructor
      · intro _ ⟨_, long⟩
        rw [blob_of_length] at long
        omega
      · intro _
        constructor
        · intro other secret parts
          obtain ⟨rfl, rfl⟩ := blob_of_injective _ _ _ _ parts
          rfl
        · intro foreign
          exact absurd rfl (foreign version ⟨value, short⟩)
    · have refused : SecretValue.new value = .error .tooLarge := by
        rw [SecretValue.new, dif_neg short]
      rw [refused]
      constructor
      · intro decodes
        have fault := decodes.other fun other secret parts => short (by
          rw [(blob_of_injective _ _ _ _ parts).2]
          exact secret.short)
        cases fault
      · intro fits
        refine absurd ⟨rfl, ?_⟩ fits
        rw [blob_of_length]
        omega

/-- A sealed entry opens to what was sealed; of anything else an entry may hold, a read is
exact unless the value is longer than any secret's. -/
theorem entry_decoded (search : Search) (drawn : Uuid) (service : String) (ring : Ring) (target : Target) (blob : Bytes)
    (found : ring[place service target.address]? = some blob) :
    (∀ (version : Uuid) (value : SecretValue), openBlob (blobOf version value.bytes) = .ok (versionOf version, value.bytes)) ∧
      (Decodes blob (operate search service (.read target) drawn ring).1 ↔ ¬Oversized blob) := by
  rw [read_run search drawn service ring target blob found]
  exact ⟨fun version value => open_blob version value.bytes, revealed_decodes blob⟩

section Example

theorem small_entry_decoded :
    (∀ (version : Uuid) (value : SecretValue), openBlob (blobOf version value.bytes) = .ok (versionOf version, value.bytes)) ∧
      (Decodes (blobOf nilVersion [104, 105])
          (operate everyEntry "b10x-secrets" (.read (.unbound token)) nilVersion (holding (blobOf nilVersion [104, 105]))).1 ↔
        ¬Oversized (blobOf nilVersion [104, 105])) :=
  entry_decoded everyEntry nilVersion "b10x-secrets" (holding _) (.unbound token) _ (holding_found _)

def oversizedBlob : Bytes := blobOf nilVersion (List.replicate (maxValueBytes + 1) 0)

theorem oversized_blob : Oversized oversizedBlob := by
  refine ⟨rfl, ?_⟩
  rw [oversizedBlob, blob_of_length, List.length_replicate]
  omega

theorem oversized_not_decoded :
    ¬Decodes oversizedBlob (operate everyEntry "b10x-secrets" (.read (.unbound token)) nilVersion (holding oversizedBlob)).1 := by
  rw [read_run everyEntry nilVersion "b10x-secrets" (holding oversizedBlob) (.unbound token) oversizedBlob (holding_found _)]
  intro decodes
  exact (revealed_decodes oversizedBlob).mp decodes oversized_blob

end Example

end Keychain
end Secrets
