import UnifiedAttestation.Eventlog.Report

/-! Which logs have all their boot images in the report.

The loop that collects the images ends with the entry that tells the last of the three
files, and counts in a byte.
-/

set_option autoImplicit false

namespace UnifiedAttestation.Eventlog

open Wire (Bytes)

section Images

/-- The report lists the digests of all boot images in log order, counts them and gives
each a verdict. -/
def ReportsImages (overflowChecks : Bool) (log : List EventlogEntry) : Prop :=
  ∃ state, firmwareLogState overflowChecks log = .ok state ∧
    state.grubImageList = (log.filter isImage).map digestHex ∧
    state.grubImageCount = state.grubImageList.length ∧
    ∀ eventRefs index, checkEventReferences state eventRefs (imageKey index) =
      state.grubImageList[index]?.map (verdict eventRefs)

/-- No boot image comes after entries that tell all three files. -/
def ImagesFirst (log : List EventlogEntry) : Prop :=
  ∀ front entry back, log = front ++ entry :: back → isImage entry = true → complete front = false

theorem complete_mono {front more : List EventlogEntry} (longer : front <+: more) (done : complete front = true) :
    complete more = true := by
  obtain ⟨rest, rfl⟩ := longer
  rw [complete, List.all_eq_true] at done ⊢
  intro key listed
  rw [List.any_append, done key listed, Bool.true_or]

/-- The loop leaves no image out exactly when none comes after all files are told. -/
theorem scannedFrom_images (front rest : List EventlogEntry) :
    ((scannedFrom front rest).filter isImage).length = ((front ++ rest).filter isImage).length ↔
      ∀ more entry back, rest = more ++ entry :: back → isImage entry = true → complete (front ++ more) = false := by
  induction rest generalizing front with
  | nil =>
    have whole : scannedFrom front [] = front := by
      cases done : complete front with
      | true => exact scannedFrom_complete done []
      | false => exact scannedFrom_nil done
    rw [whole, List.append_nil]
    refine iff_of_true rfl fun more entry back split => ?_
    simp at split
  | cons entry rest ih =>
    cases done : complete front with
    | true =>
      -- The loop has ended, so nothing is left out exactly when the rest has no image.
      rw [scannedFrom_complete done, List.filter_append, List.length_append]
      constructor
      · intro none more other back split image
        have held : other ∈ (entry :: rest).filter isImage := by
          rw [split]
          exact List.mem_filter.mpr ⟨List.mem_append_right more List.mem_cons_self, image⟩
        have some := List.length_pos_of_mem held
        omega
      · intro first
        have none : (entry :: rest).filter isImage = [] := by
          rw [List.filter_eq_nil_iff]
          intro other held image
          obtain ⟨more, back, split⟩ := List.append_of_mem held
          have undone := first more other back split image
          rw [complete_mono (List.prefix_append front more) done] at undone
          cases undone
        rw [none, List.length_nil, Nat.add_zero]
    | false =>
      -- The loop takes the entry in and goes on with a longer front.
      rw [scannedFrom_cons done, List.append_cons front entry rest, ih]
      constructor
      · intro first more other back split image
        cases more with
        | nil =>
          rw [List.append_nil]
          exact done
        | cons same more =>
          obtain ⟨rfl, later⟩ := List.cons.inj split
          rw [List.append_cons]
          exact first more other back later image
      · intro first more other back split image
        rw [List.append_assoc]
        exact first (entry :: more) other back (congrArg (entry :: ·) split) image

theorem images_length_iff (log : List EventlogEntry) :
    (images log).length = (log.filter isImage).length ↔ ImagesFirst log :=
  scannedFrom_images [] log

theorem images_of_front (log : List EventlogEntry) : images log <+: log.filter isImage := by
  rw [images, scanned, scannedFrom]
  cases found : (log.inits.map fun more => [] ++ more).find? complete with
  | none => exact List.prefix_rfl
  | some entries =>
    obtain ⟨more, listed, rfl⟩ := List.mem_map.mp (List.mem_of_find?_eq_some found)
    exact ((List.mem_inits more log).mp listed).filter isImage

/-- What the report of a validated log needs: all images before the loop ends, and a count
that fits a byte. -/
theorem reportsImages_iff_length {overflowChecks : Bool} {log : List EventlogEntry}
    (digested : ∀ entry ∈ log, (firstDigest entry).isSome = true) :
    ReportsImages overflowChecks log ↔
      (images log).length = (log.filter isImage).length ∧ (log.filter isImage).length ≤ 255 := by
  have looped := firmwareLogState_eq overflowChecks digested
  constructor
  · rintro ⟨state, ran, listed, counted, _⟩
    rw [looped] at ran
    by_cases full : overflowChecks = true ∧ 255 < ((scanned log).filter isImage).length
    · rw [if_pos full] at ran
      cases ran
    · rw [if_neg full] at ran
      obtain rfl := Except.ok.inj ran
      have all : (images log).length = (log.filter isImage).length := by
        simpa [stateOf, images] using congrArg List.length listed
      -- Where the byte wraps around, the count is too small.
      have fits : (images log).length % 256 = (images log).length := by
        simpa [stateOf, images] using counted
      omega
  · rintro ⟨all, fits⟩
    have whole : images log = log.filter isImage := (images_of_front log).eq_of_length all
    have small : ¬ (overflowChecks = true ∧ 255 < ((scanned log).filter isImage).length) := by
      rintro ⟨_, full⟩
      rw [images] at all
      omega
    rw [if_neg small] at looped
    refine ⟨stateOf (scanned log), looped, congrArg (List.map digestHex) whole, ?_, fun eventRefs index => ?_⟩
    · have counted : (images log).length % 256 = (images log).length := by omega
      simpa [stateOf, images] using counted
    · exact checkEventReferences_image _ eventRefs index

/-- The report of a validated log is complete exactly when no boot image comes after all
three files are told and at most 255 images are in the log. -/
theorem reportsImages_iff {overflowChecks : Bool} {log : List EventlogEntry}
    (validated : validateEventLogDigests log = .ok ()) :
    ReportsImages overflowChecks log ↔ ImagesFirst log ∧ (log.filter isImage).length ≤ 255 := by
  rw [reportsImages_iff_length (validateFrom_eq_ok.mp validated), images_length_iff]

end Images

section Late

def loggedEntry (eventType eventDesc : String) : EventlogEntry where
  targetMeasurementRegistry := 1
  eventTypeId := 0
  eventType
  digests := [{ algorithm := "TPM_ALG_SHA256", digest := [0xAA] }]
  eventDesc := Wire.utf8 eventDesc

def bootImage : EventlogEntry := loggedEntry grubEventType ""

def fileEntries : List EventlogEntry :=
  [loggedEntry "EV_IPL" "/boot/grub.cfg", loggedEntry "EV_IPL" "/vmlinuz-6.6", loggedEntry "EV_IPL" "/initramfs-6.6"]

/-- A boot image after the three files is not listed, and 256 images are not counted. -/
theorem image_unreported :
    (validateEventLogDigests (fileEntries ++ [bootImage]) = .ok () ∧
        ∀ overflowChecks, ¬ ReportsImages overflowChecks (fileEntries ++ [bootImage])) ∧
      validateEventLogDigests (List.replicate 256 bootImage) = .ok () ∧
        ∀ overflowChecks, ¬ ReportsImages overflowChecks (List.replicate 256 bootImage) := by
  have late : ∀ entry ∈ fileEntries ++ [bootImage], (firstDigest entry).isSome = true := by decide
  have many : ∀ entry ∈ List.replicate 256 bootImage, (firstDigest entry).isSome = true := by
    intro entry held
    rw [List.eq_of_mem_replicate held]
    decide
  have asMany : ((List.replicate 256 bootImage).filter isImage).length = 256 := by
    rw [List.filter_replicate_of_pos (by decide), List.length_replicate]
  refine ⟨⟨validateFrom_eq_ok.mpr late, fun overflowChecks all => ?_⟩, validateFrom_eq_ok.mpr many,
    fun overflowChecks all => ?_⟩
  · exact absurd ((reportsImages_iff_length late).mp all).1 (by decide)
  · have fits := ((reportsImages_iff_length many).mp all).2
    omega

theorem reportsImages_first : ReportsImages true (bootImage :: fileEntries) := by
  refine (reportsImages_iff (validateFrom_eq_ok.mpr (by decide))).mpr ⟨?_, by decide⟩
  rw [← images_length_iff]
  decide

end Late

end UnifiedAttestation.Eventlog
