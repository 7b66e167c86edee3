import Depository.Document.Row
import Depository.Proofs.Document.Variants
import Depository.Proofs.Identifier.Uuids
import Depository.Proofs.Notification.Names
import Depository.Proofs.Time.InstantReading
import Mathlib.Data.List.Nodup

/-!
# Entities that are read back

The document of every entity is read as that entity, member by member. This needs that identities
and instants are read back from their texts, that the names of the cases of a type differ, and that
the name of a kind of notification is known in any case of its letters.
-/

namespace Depository

open Json (ReadsAs Recased Variant asCase? asText? asUnsigned? readsAs_bool readsAs_int
  readsAs_list readsAs_record readsAs_recased_list readsAs_str readsAs_text readsAs_texts)

/-! ### Scalars -/

private theorem EntityId.readsAs {kind : EntityKind} (id : EntityId kind) :
    ReadsAs Variant ofJson? id.toJson id := by
  refine readsAs_str ?_
  rw [ofJson?, asText?, Option.bind_some, text, Uuid.ofText?_text]
  rfl

private theorem Time.Instant.readsAs (t : Instant) : ReadsAs Variant ofJson? t.toJson t := by
  refine readsAs_str ?_
  rw [ofJson?, asText?, Option.bind_some, instantOfText?_text]

/-- A case among cases with different names is found by its name. -/
private theorem readsAs_case {α : Type} {all : List α} {name : α → String}
    (hnames : (all.map name).Nodup) {a : α} (ha : a ∈ all) :
    ReadsAs Variant (fun j => (asCase? j).bind (caseNamed? all name)) (.str (name a)) a := by
  refine readsAs_str ?_
  rw [asCase?, Option.bind_some, caseNamed?]
  have hinjective : ∀ b ∈ all, name b = name a → b = a := fun b hb h =>
    List.inj_on_of_nodup_map hnames hb ha h
  cases hfound : all.find? fun b => name b == name a with
  | none => simpa using List.find?_eq_none.mp hfound a ha
  | some b =>
    have hb : name b = name a := by simpa using List.find?_some hfound
    rw [hinjective b (List.mem_of_find?_eq_some hfound) hb]

private theorem fileSize?_toNat (n : UInt64) : fileSize? (Json.ofNat n.toNat) = some n := by
  have hfits : Text.fitsUnsigned 64 n.toNat = true := by simpa [Text.fitsUnsigned] using n.toNat_lt
  simp [fileSize?, Json.ofNat, asUnsigned?, hfits]

private theorem versionNumber?_toNat (n : UInt32) :
    versionNumber? (Json.ofNat n.toNat) = some n := by
  have hfits : Text.fitsUnsigned 32 n.toNat = true := by simpa [Text.fitsUnsigned] using n.toNat_lt
  simp [versionNumber?, Json.ofNat, asUnsigned?, hfits]

/-! ### Kinds of notification -/

namespace NotificationType

private theorem readsAs (t : NotificationType) : ReadsAs Recased ofJson? (.str t.name) t := by
  refine ⟨nofun, fun j' hj' => ?_⟩
  cases hj' with
  | same =>
    rw [ofJson?, asText?, Option.bind_some]
    exact ofText?_of_sameIgnoringCase (Text.sameIgnoringCase_refl _)
  | name h =>
    rw [ofJson?, asText?, Option.bind_some]
    exact ofText?_of_sameIgnoringCase h

end NotificationType

private theorem TypeSet.readsAs (s : TypeSet) : ReadsAs Recased ofJson? s.toJson s := by
  have hlist : ReadsAs Recased (Json.asList? NotificationType.ofJson?) s.toJson s.toList :=
    readsAs_recased_list fun t _ => t.readsAs
  obtain ⟨hnull, hread⟩ := hlist
  refine ⟨hnull, fun j' hj' => ?_⟩
  rw [ofJson?, hread j' hj', Option.map_some, ofList_toList]

/-! ### Records -/

private theorem GlobalId.readsAs (g : GlobalId) : ReadsAs Variant ofJson? g.toJson g :=
  readsAs_record fun _ h =>
    h.required rfl (by decide) (readsAs_text g.protocol) <|
    h.required rfl (by decide) (readsAs_text g.authority) <|
    h.required rfl (by decide) (readsAs_text g.identifier) rfl

private theorem Field.readsAs (f : Field) : ReadsAs Variant ofJson? f.toJson f :=
  readsAs_record fun _ h =>
    h.required rfl (by decide) (readsAs_text f.typeName) <|
    h.required rfl (by decide) (readsAs_texts f.values) rfl

private theorem Violation.readsAs (v : Violation) : ReadsAs Variant ofJson? v.toJson v :=
  readsAs_record fun _ h =>
    h.required rfl (by decide) (readsAs_text v.fieldType) <|
    h.optionalText rfl (by decide) <|
    h.required rfl (by decide) (readsAs_text v.message) rfl

private theorem FieldType.readsAs (t : FieldType) : ReadsAs Variant ofJson? t.toJson t :=
  readsAs_record fun _ h =>
    h.required rfl (by decide) (readsAs_text t.name) <|
    h.required rfl (by decide) (readsAs_case (by decide) (by cases t.kind <;> decide)) <|
    h.required rfl (by decide) (readsAs_bool t.required) <|
    h.required rfl (by decide) (readsAs_bool t.multiple) rfl

private theorem Schema.readsAs (s : Schema) : ReadsAs Variant ofJson? s.toJson s :=
  readsAs_record fun _ h =>
    h.required rfl (by decide) (readsAs_text s.name) <|
    h.required rfl (by decide) (readsAs_list fun t _ => t.readsAs) rfl

private theorem FileMetadata.readsAs (fm : FileMetadata) : ReadsAs Variant ofJson? fm.toJson fm :=
  readsAs_record fun _ h =>
    h.required rfl (by decide) fm.id.readsAs <|
    h.required rfl (by decide) fm.dataFile.readsAs <|
    h.required rfl (by decide) (readsAs_text fm.label) <|
    h.optionalText rfl (by decide) <|
    h.optionalText rfl (by decide) <|
    h.required rfl (by decide) (readsAs_bool fm.restricted) rfl

private theorem Category.readsAs (c : Category) : ReadsAs Variant ofJson? c.toJson c :=
  readsAs_record fun _ h =>
    h.required rfl (by decide) (readsAs_text c.name) <|
    h.required rfl (by decide) (readsAs_list fun id _ => id.readsAs) rfl

private theorem DataFile.readsAs (f : DataFile) : ReadsAs Variant ofJson? f.toJson f :=
  readsAs_record fun _ h =>
    h.required rfl (by decide) f.id.readsAs <|
    h.required rfl (by decide) (readsAs_text f.contentType) <|
    h.required rfl (by decide) (readsAs_int (fileSize?_toNat f.size)) <|
    h.required rfl (by decide) (readsAs_text f.checksumValue) <|
    h.required rfl (by decide)
      (readsAs_case (by decide) (by cases f.checksumType <;> decide)) <|
    h.optionalText rfl (by decide) <|
    h.required rfl (by decide) (readsAs_text f.storageIdentifier) <|
    h.optional rfl (by decide) (fun t _ => t.readsAs) <|
    h.optional rfl (by decide) (fun t _ => t.readsAs) <|
    h.optional rfl (by decide) (fun id _ => id.readsAs) <|
    h.optional rfl (by decide) (fun t _ => t.readsAs) <|
    h.optional rfl (by decide) (fun g _ => g.readsAs) <|
    h.optional rfl (by decide) (fun t _ => t.readsAs) <|
    h.required rfl (by decide) (readsAs_bool f.identifierRegistered) rfl

private theorem Version.readsAs (v : Version) : ReadsAs Variant ofJson? v.toJson v :=
  readsAs_record fun _ h =>
    h.required rfl (by decide) v.id.readsAs <|
    h.required rfl (by decide) (readsAs_case (by decide) (by cases v.state <;> decide)) <|
    h.optional rfl (by decide) (fun n _ => readsAs_int (versionNumber?_toNat n)) <|
    h.optional rfl (by decide) (fun n _ => readsAs_int (versionNumber?_toNat n)) <|
    h.required rfl (by decide) (readsAs_list fun f _ => f.readsAs) <|
    h.required rfl (by decide) (readsAs_list fun fm _ => fm.readsAs) <|
    h.optional rfl (by decide) (fun t _ => t.readsAs) <|
    h.optional rfl (by decide) (fun t _ => t.readsAs) <|
    h.optional rfl (by decide) (fun t _ => t.readsAs) <|
    h.optionalText rfl (by decide) <|
    h.required rfl (by decide) (readsAs_list fun problem _ => problem.readsAs) rfl

private theorem Dataset.readsAs (d : Dataset) : ReadsAs Variant ofJson? d.toJson d :=
  readsAs_record fun _ h =>
    h.required rfl (by decide) d.id.readsAs <|
    h.required rfl (by decide) (readsAs_text d.owner) <|
    h.optional rfl (by decide) (fun id _ => id.readsAs) <|
    h.optional rfl (by decide) (fun g _ => g.readsAs) <|
    h.optional rfl (by decide) (fun t _ => t.readsAs) <|
    h.required rfl (by decide) (readsAs_bool d.identifierRegistered) <|
    h.required rfl (by decide) (readsAs_bool d.harvested) <|
    h.required rfl (by decide) (readsAs_list fun v _ => v.readsAs) <|
    h.required rfl (by decide) (readsAs_list fun f _ => f.readsAs) <|
    h.required rfl (by decide) (readsAs_list fun c _ => c.readsAs) <|
    h.optional rfl (by decide) (fun id _ => id.readsAs) <|
    h.required rfl (by decide) d.createTime.readsAs <|
    h.optional rfl (by decide) (fun t _ => t.readsAs) <|
    h.optional rfl (by decide) (fun t _ => t.readsAs) rfl

private theorem Lock.readsAs (l : Lock) : ReadsAs Variant ofJson? l.toJson l :=
  readsAs_record fun _ h =>
    h.required rfl (by decide) l.id.readsAs <|
    h.required rfl (by decide) l.dataset.readsAs <|
    h.required rfl (by decide) (readsAs_case (by decide) (by cases l.reason <;> decide)) <|
    h.optional rfl (by decide) (fun id _ => id.readsAs) <|
    h.required rfl (by decide) l.startTime.readsAs <|
    h.optionalText rfl (by decide) rfl

private theorem User.readsAs (u : User) : ReadsAs Variant ofJson? u.toJson u :=
  readsAs_record fun _ h =>
    h.required rfl (by decide) u.id.readsAs <|
    h.required rfl (by decide) (readsAs_text u.identifier) <|
    h.required rfl (by decide) (readsAs_text u.email) <|
    h.required rfl (by decide) (readsAs_bool u.superuser) <|
    h.requiredKinds rfl (by decide) u.mutedEmails.readsAs <|
    h.requiredKinds rfl (by decide) u.mutedNotifications.readsAs rfl

private theorem RoleAssignment.readsAs (a : RoleAssignment) : ReadsAs Variant ofJson? a.toJson a :=
  readsAs_record fun _ h =>
    h.required rfl (by decide) a.dataset.readsAs <|
    h.required rfl (by decide) a.user.readsAs <|
    h.required rfl (by decide) (readsAs_case (by decide) (by cases a.role <;> decide)) rfl

private theorem Notification.readsAs (n : Notification) : ReadsAs Variant ofJson? n.toJson n :=
  readsAs_record fun _ h =>
    h.required rfl (by decide) n.id.readsAs <|
    h.required rfl (by decide) n.user.readsAs <|
    h.required rfl (by decide) n.sendDate.readsAs <|
    h.requiredKinds rfl (by decide) n.type.readsAs <|
    h.required rfl (by decide) (readsAs_text n.object) <|
    h.optional rfl (by decide) (fun id _ => id.readsAs) <|
    h.required rfl (by decide) (readsAs_bool n.read) <|
    h.required rfl (by decide) (readsAs_bool n.emailed) <|
    h.optionalText rfl (by decide) rfl

/-! ### Reading back -/

/-- What is written is read back, and so is every document that says the same. -/
def ReadsBack {α : Type} (write : α → Json) (read : Json → Option α) (a : α) : Prop :=
  read (write a) = some a ∧ ∀ j, Variant (write a) j → read j = some a

private theorem readsBack_of_readsAs {α : Type} {write : α → Json} {read : Json → Option α} {a : α}
    (h : ReadsAs Variant read (write a) a) : ReadsBack write read a :=
  ⟨h.2 _ (.same _), h.2⟩

/-- The document of a set lists the names of its kinds in the order of the kinds. -/
private theorem TypeSet.toJson_eq_names (s : TypeSet) :
    ∃ kinds : List NotificationType, s.toJson = .arr (kinds.map fun t => .str t.name) ∧
      kinds.Sublist NotificationType.all ∧ ∀ t, t ∈ kinds ↔ s.has t = true := by
  refine ⟨s.toList, rfl, List.filter_sublist, fun t => ?_⟩
  rw [toList, List.mem_filter]
  exact and_iff_right t.mem_all

/-- Every entity is read back from its document, whatever its texts, its times and its sizes are,
and also from a document that leaves out members that are null or has the names of kinds in other
letters. Sets are written in the order of the kinds, and the row of a dataset holds a document from
which the dataset is read back. -/
theorem documents_read_back :
    (∀ d : Dataset, ReadsBack Dataset.toJson Dataset.ofJson? d) ∧
    (∀ v : Version, ReadsBack Version.toJson Version.ofJson? v) ∧
    (∀ f : DataFile, ReadsBack DataFile.toJson DataFile.ofJson? f) ∧
    (∀ fm : FileMetadata, ReadsBack FileMetadata.toJson FileMetadata.ofJson? fm) ∧
    (∀ l : Lock, ReadsBack Lock.toJson Lock.ofJson? l) ∧
    (∀ u : User, ReadsBack User.toJson User.ofJson? u) ∧
    (∀ n : Notification, ReadsBack Notification.toJson Notification.ofJson? n) ∧
    (∀ a : RoleAssignment, ReadsBack RoleAssignment.toJson RoleAssignment.ofJson? a) ∧
    (∀ s : Schema, ReadsBack Schema.toJson Schema.ofJson? s) ∧
    (∀ g : GlobalId, ReadsBack GlobalId.toJson GlobalId.ofJson? g) ∧
    (∀ s : TypeSet, ∃ kinds : List NotificationType,
      s.toJson = .arr (kinds.map fun t => .str t.name) ∧
        kinds.Sublist NotificationType.all ∧ ∀ t, t ∈ kinds ↔ s.has t = true) ∧
    ∀ d : Dataset, Dataset.ofJson? d.row.document = some d :=
  ⟨fun d => readsBack_of_readsAs d.readsAs, fun v => readsBack_of_readsAs v.readsAs,
    fun f => readsBack_of_readsAs f.readsAs, fun fm => readsBack_of_readsAs fm.readsAs,
    fun l => readsBack_of_readsAs l.readsAs, fun u => readsBack_of_readsAs u.readsAs,
    fun n => readsBack_of_readsAs n.readsAs, fun a => readsBack_of_readsAs a.readsAs,
    fun s => readsBack_of_readsAs s.readsAs, fun g => readsBack_of_readsAs g.readsAs,
    TypeSet.toJson_eq_names, fun d => (readsBack_of_readsAs d.readsAs).1⟩

/-- A version 1.0, and a notification whose document leaves out two members and has the name of
its kind in small letters. -/
theorem documents_read_back_of_release :
    let v : Version := { Version.draft ⟨⟨1⟩⟩ with
      state := .released
      versionNumber := some 1
      minorVersionNumber := some 0 }
    let n := Notification.new ⟨⟨2⟩⟩ ⟨⟨3⟩⟩ .epoch .createDataset "Tides"
    Version.ofJson? v.toJson = some v ∧
      Notification.ofJson? (.obj [("id", n.id.toJson), ("user_id", n.user.toJson),
        ("send_date", n.sendDate.toJson), ("notification_type", .str "createDs"),
        ("object_id", .str "Tides"), ("read", .bool false), ("emailed", .bool false)]) =
          some n := by
  intro v n
  obtain ⟨-, hversion, -, -, -, -, hnotification, -⟩ := documents_read_back
  refine ⟨(hversion v).1, (hnotification n).2 _ (.members (by decide) ?_ ?_ ?_)⟩
  · simp [List.lookup_cons, n, Notification.new, Json.ofOption, Json.ofText?]
  · have hname : Recased (.str "CREATEDS") (.str "createDs") := .name (by decide)
    simpa [List.lookup_cons, Json.kindMembers, n, Notification.new, NotificationType.name] using hname
  · simp [List.lookup_cons, Json.kindMembers, n, Notification.new, Variant.same]

end Depository
