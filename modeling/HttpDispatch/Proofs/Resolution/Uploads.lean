import HttpDispatch.Proofs.RequestValues
import HttpDispatch.Proofs.Resolution.Parcels

/-!
# Uploads come back

Recording an upload puts three values under keys that begin with its name, and a parameter of the
shape `Schema.uploadedFile` is built from such keys.  The two fit: an upload is a tree with three
leaves (`Upload.tree`), recording it sends these leaves under its name (`entries_uploadParcel`), so
the uploads of a request are parcels and arrive as they were (`outcome_resolve_uploads`).  Texts
may be anything, names too, as long as no name leads another one.
-/

namespace HttpDispatch

namespace Upload

/-- **An upload as a value**: where it was stored, its name, its type. -/
def value (u : Upload) : Json :=
  .ofMembers [("file", .string u.path), ("originalFilename", .string u.filename),
    ("contentType", .string u.contentType)]

/-- An upload as a tree of texts. -/
def tree (u : Upload) : RawTree :=
  .object [("file", .leaf u.path), ("originalFilename", .leaf u.filename),
    ("contentType", .leaf u.contentType)]

theorem fits_tree (u : Upload) : u.tree.Fits .uploadedFile := by
  have text (raw : String) : (RawTree.leaf raw).Fits (.scalar .string) :=
    .leaf (ScalarKind.coerce_string raw)
  have names : ["file", "originalFilename", "contentType"].Nodup := by decide
  refine .object (List.cons_ne_nil _ _) names (fun e he => ?_) fun e he shape hshape => ?_
  · rcases he with _ | ⟨_, _ | ⟨_, _ | ⟨_, ⟨⟩⟩⟩⟩ <;> rfl
  rcases he with _ | ⟨_, _ | ⟨_, _ | ⟨_, ⟨⟩⟩⟩⟩ <;> cases hshape
  · exact text u.path
  · exact text u.filename
  · exact text u.contentType

end Upload

theorem Schema.addressable_uploadedFile : Schema.uploadedFile.Addressable := by
  refine .object (fun e he => ?_) fun e he => ?_
  all_goals
    rcases he with _ | ⟨_, _ | ⟨_, _ | ⟨_, ⟨⟩⟩⟩⟩
  · exact PropertyPath.writable_field (by decide) (by decide)
  · exact PropertyPath.writable_field (by decide) (by decide)
  · exact PropertyPath.writable_field (by decide) (by decide)
  all_goals exact .scalar .string

namespace RequestValues

/-- **Record uploads**, one after the other. -/
def addUploads (r : RequestValues) (uploads : List (String × Upload)) : RequestValues :=
  uploads.foldl (fun r u => r.addUpload u.1 u.2) r

theorem addUploads_empty (uploads : List (String × Upload)) :
    empty.addUploads uploads = ofList (uploads.flatMap fun u => u.2.fields u.1) :=
  (List.foldl_flatMap ..).symm

end RequestValues

namespace Resolution

/-- **An upload as it is sent** under a name. -/
def uploadParcel (u : String × Upload) : Parcel where
  name := u.1
  schema := .uploadedFile
  tree := u.2.tree
  addressable := Schema.addressable_uploadedFile
  fits := u.2.fits_tree

theorem map_name_uploadParcel (uploads : List (String × Upload)) :
    (uploads.map uploadParcel).map Parcel.name = uploads.map Prod.fst := by
  rw [List.map_map]
  rfl

/-- A field of a parcel stands behind its name and a dot. -/
theorem ledKey_field (name : String) {field : String} (h : PropertyPath.Writable (.field field)) :
    ledKey name (PropertyPath.text [.field field]) = name ++ "." ++ field := by
  have htext : PropertyPath.text [.field field] = field.toList := List.append_nil _
  obtain ⟨c, rest, hfield⟩ : ∃ c rest, field.toList = c :: rest :=
    List.exists_cons_of_ne_nil (by simp [h.1])
  have hc : c ≠ '[' := by
    rintro rfl
    exact absurd (h.2 '[' (by simp [hfield])) (by decide)
  rw [htext, hfield, ledKey, ← String.toList_inj]
  · simp [hfield]
  · exact List.cons_ne_nil _ _
  · exact fun _ heq => hc (List.cons.inj heq).1

/-- What is recorded of an upload are its leaves under its name. -/
theorem entries_uploadParcel (u : String × Upload) : (uploadParcel u).entries = u.2.fields u.1 := by
  have key (field : String) (hne : field ≠ "")
      (hall : field.toList.all PropertyPath.isNameChar = true) :
      ledKey u.1 (PropertyPath.text [.field field]) = u.1 ++ ("." ++ field) := by
    rw [ledKey_field u.1 (PropertyPath.writable_field hne hall), String.append_assoc]
  have hfile := key "file" (by decide) (by decide)
  have hname := key "originalFilename" (by decide) (by decide)
  have htype := key "contentType" (by decide) (by decide)
  simp only [Parcel.entries, uploadParcel, Upload.tree, RawTree.leaves, RawTree.fieldLeaves,
    List.map_cons, List.map_nil, List.append_nil, List.singleton_append, RawTree.beneath,
    hfile, hname, htype]
  rfl

/-- What is recorded of several uploads. -/
theorem entries_flatten_addUploads {uploads : List (String × Upload)} {parameters : List Parameter}
    (h : NamesApart (uploads.map Prod.fst)) (hsimple : ∀ p ∈ parameters, p.isSimple = false) :
    ((RequestValues.empty.addUploads uploads).flatten parameters).entries.Perm
      ((uploads.map uploadParcel).flatMap Parcel.entries) := by
  have hentries : (uploads.map uploadParcel).flatMap Parcel.entries
      = uploads.flatMap fun u => u.2.fields u.1 := by
    rw [List.flatMap_map]
    exact List.flatMap_congr fun u _ => entries_uploadParcel u
  have distinct := nodup_keys_flatMap ((map_name_uploadParcel uploads).symm ▸ h)
  rw [hentries] at distinct ⊢
  rw [RequestValues.flatten_of_not_isSimple hsimple, RequestValues.addUploads_empty,
    RequestValues.firsts_ofList, SortedMap.entries_ofList]
  refine (Entries.perm_ofList ?_).trans (List.reverse_perm _)
  rwa [List.map_reverse, List.nodup_reverse]

/-- Names that are distinct and do not begin with another one and a dot or a bracket. -/
theorem namesApart_of_ne {names : List String} (distinct : names.Nodup)
    (apart : ∀ a ∈ names, ∀ b ∈ names, ∀ rest, b ≠ a ++ "." ++ rest ∧ b ≠ a ++ "[" ++ rest) :
    NamesApart names := by
  have hleads {a b : String} (ha : a ∈ names) (hb : b ∈ names) (hne : a ≠ b) : ¬Leads a b := by
    rintro (heq | ⟨rest, heq | heq⟩)
    · exact hne heq.symm
    · exact (apart a ha b hb rest).1 heq
    · exact (apart a ha b hb rest).2 heq
  exact distinct.imp_of_mem fun ha hb hne => ⟨hleads ha hb hne, hleads hb ha hne.symm⟩

/-- **Uploads come back intact**, whatever the order in which their parameters are declared. -/
theorem outcome_resolve_uploads {uploads order : List (String × Upload)}
    (distinct : (uploads.map Prod.fst).Nodup)
    (apart : ∀ a ∈ uploads.map Prod.fst, ∀ b ∈ uploads.map Prod.fst, ∀ rest,
      b ≠ a ++ "." ++ rest ∧ b ≠ a ++ "[" ++ rest)
    (declared : order.Perm uploads) :
    let parameters := order.map fun u => Parameter.structured u.1 .uploadedFile
    (resolve ((RequestValues.empty.addUploads uploads).flatten parameters) parameters none).outcome
      = .ok ⟨order.map fun u => (u.1, some u.2.value)⟩ := by
  intro parameters
  have hparameters : parameters = (order.map uploadParcel).map Parcel.parameter := by
    rw [List.map_map]
    rfl
  have hapart : NamesApart (uploads.map Prod.fst) := namesApart_of_ne distinct apart
  have hsimple : ∀ p ∈ parameters, p.isSimple = false := by
    rw [hparameters]
    exact fun p => isSimple_eq_false_of_mem_parameter
  have hvalues := entries_flatten_addUploads hapart hsimple
  have horder : NamesApart (order.map Prod.fst) :=
    hapart.perm (declared.map Prod.fst).symm fun h => h.symm
  have houtcome := outcome_resolve_parcels ((map_name_uploadParcel order).symm ▸ horder)
    (hvalues.trans ((declared.map uploadParcel).symm.flatMap_right Parcel.entries)) none
  rw [← hparameters, List.map_map] at houtcome
  exact houtcome

/-- Three uploads: one name begins with another one, one is empty, and so are some of the texts. -/
theorem outcome_resolve_uploads_photos :
    let photo : String × Upload := ("photo", ⟨"/tmp/1", "", "image/png"⟩)
    let photos : String × Upload := ("photos", ⟨"/tmp/2", "b.jpg", ""⟩)
    let unnamed : String × Upload := ("", ⟨"", "", ""⟩)
    let uploads := [photo, photos, unnamed]
    let parameters := [Parameter.structured "" .uploadedFile, .structured "photos" .uploadedFile,
      .structured "photo" .uploadedFile]
    (uploads.map Prod.fst).Nodup ∧
      (∀ a ∈ uploads.map Prod.fst, ∀ b ∈ uploads.map Prod.fst, ∀ rest,
        b ≠ a ++ "." ++ rest ∧ b ≠ a ++ "[" ++ rest) ∧
      [unnamed, photos, photo].Perm uploads ∧
      (resolve ((RequestValues.empty.addUploads uploads).flatten parameters) parameters
        none).outcome = .ok ⟨[
          ("", some (.object [("contentType", .string ""), ("file", .string ""),
            ("originalFilename", .string "")])),
          ("photos", some (.object [("contentType", .string ""), ("file", .string "/tmp/2"),
            ("originalFilename", .string "b.jpg")])),
          ("photo", some (.object [("contentType", .string "image/png"),
            ("file", .string "/tmp/1"), ("originalFilename", .string "")]))]⟩ := by
  intro photo photos unnamed uploads parameters
  have distinct : (uploads.map Prod.fst).Nodup := by decide
  have declared : [unnamed, photos, photo].Perm uploads := List.reverse_perm uploads
  have hpaths : ∀ a ∈ uploads.map Prod.fst, ∀ b ∈ uploads.map Prod.fst,
      a = b ∨ relativePath? a b = none := by decide
  have apart : ∀ a ∈ uploads.map Prod.fst, ∀ b ∈ uploads.map Prod.fst, ∀ rest,
      b ≠ a ++ "." ++ rest ∧ b ≠ a ++ "[" ++ rest := by
    intro a ha b hb rest
    rcases hpaths a ha b hb with rfl | hnone
    · exact ⟨fun heq => by simpa using congrArg String.toList heq,
        fun heq => by simpa using congrArg String.toList heq⟩
    · have hleads := relativePath?_eq_none_iff.1 hnone
      exact ⟨fun heq => hleads (.inr ⟨rest, .inl heq⟩), fun heq => hleads (.inr ⟨rest, .inr heq⟩)⟩
  refine ⟨distinct, apart, declared, (outcome_resolve_uploads distinct apart declared).trans ?_⟩
  decide +kernel

end Resolution

end HttpDispatch
