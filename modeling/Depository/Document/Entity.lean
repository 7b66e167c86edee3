import Depository.Document.Scalar
import Depository.Schema.Basic

/-!
# Documents of entities

The JSON documents in which entities are stored. A written document holds every member; a read
one may leave out those that may be null.
-/

namespace Depository

open Json (asText? asBool? asList? asRecord? ofText? ofList ofOption)

namespace GlobalId

def toJson (g : GlobalId) : Json :=
  .obj [("protocol", .str g.protocol), ("authority", .str g.authority),
    ("identifier", .str g.identifier)]

def ofJson? (j : Json) : Option GlobalId := do
  let r ← asRecord? 3 j
  return {
    protocol := ← r.required asText? 0 "protocol"
    authority := ← r.required asText? 1 "authority"
    identifier := ← r.required asText? 2 "identifier" }

end GlobalId

namespace Field

def toJson (f : Field) : Json :=
  .obj [("type_name", .str f.typeName), ("values", Json.ofTexts f.values)]

def ofJson? (j : Json) : Option Field := do
  let r ← asRecord? 2 j
  return {
    typeName := ← r.required asText? 0 "type_name"
    values := ← r.required (asList? asText?) 1 "values" }

end Field

namespace Violation

def toJson (v : Violation) : Json :=
  .obj [("field_type", .str v.fieldType), ("value", ofText? v.value), ("message", .str v.message)]

def ofJson? (j : Json) : Option Violation := do
  let r ← asRecord? 3 j
  return {
    fieldType := ← r.required asText? 0 "field_type"
    value := ← r.optional asText? 1 "value"
    message := ← r.required asText? 2 "message" }

end Violation

namespace FieldType

def toJson (t : FieldType) : Json :=
  .obj [("name", .str t.name), ("kind", .str t.kind.name), ("required", .bool t.required),
    ("multiple", .bool t.multiple)]

def ofJson? (j : Json) : Option FieldType := do
  let r ← asRecord? 4 j
  return {
    name := ← r.required asText? 0 "name"
    kind := ← r.required FieldKind.ofJson? 1 "kind"
    required := ← r.required asBool? 2 "required"
    multiple := ← r.required asBool? 3 "multiple" }

end FieldType

namespace Schema

def toJson (s : Schema) : Json :=
  .obj [("name", .str s.name), ("fields", ofList FieldType.toJson s.fields)]

def ofJson? (j : Json) : Option Schema := do
  let r ← asRecord? 2 j
  return {
    name := ← r.required asText? 0 "name"
    fields := ← r.required (asList? FieldType.ofJson?) 1 "fields" }

end Schema

namespace FileMetadata

def toJson (fm : FileMetadata) : Json :=
  .obj [("id", fm.id.toJson), ("data_file_id", fm.dataFile.toJson), ("label", .str fm.label),
    ("description", ofText? fm.description), ("directory_label", ofText? fm.directoryLabel),
    ("restricted", .bool fm.restricted)]

def ofJson? (j : Json) : Option FileMetadata := do
  let r ← asRecord? 6 j
  return {
    id := ← r.required EntityId.ofJson? 0 "id"
    dataFile := ← r.required EntityId.ofJson? 1 "data_file_id"
    label := ← r.required asText? 2 "label"
    description := ← r.optional asText? 3 "description"
    directoryLabel := ← r.optional asText? 4 "directory_label"
    restricted := ← r.required asBool? 5 "restricted" }

end FileMetadata

namespace Category

def toJson (c : Category) : Json :=
  .obj [("name", .str c.name), ("file_metadata_ids", ofList EntityId.toJson c.members)]

def ofJson? (j : Json) : Option Category := do
  let r ← asRecord? 2 j
  return {
    name := ← r.required asText? 0 "name"
    members := ← r.required (asList? EntityId.ofJson?) 1 "file_metadata_ids" }

end Category

namespace DataFile

def toJson (f : DataFile) : Json :=
  .obj [("id", f.id.toJson), ("content_type", .str f.contentType), ("size", .ofNat f.size.toNat),
    ("checksum_value", .str f.checksumValue), ("checksum_type", .str f.checksumType.name),
    ("unf", ofText? f.unf), ("storage_identifier", .str f.storageIdentifier),
    ("publication_date", ofOption Time.Instant.toJson f.publicationDate),
    ("create_date", ofOption Time.Instant.toJson f.createDate),
    ("creator", ofOption EntityId.toJson f.creator),
    ("modification_time", ofOption Time.Instant.toJson f.modificationTime),
    ("global_id", ofOption GlobalId.toJson f.globalId),
    ("global_id_create_time", ofOption Time.Instant.toJson f.globalIdCreateTime),
    ("identifier_registered", .bool f.identifierRegistered)]

def ofJson? (j : Json) : Option DataFile := do
  let r ← asRecord? 14 j
  return {
    id := ← r.required EntityId.ofJson? 0 "id"
    contentType := ← r.required asText? 1 "content_type"
    size := ← r.required fileSize? 2 "size"
    checksumValue := ← r.required asText? 3 "checksum_value"
    checksumType := ← r.required ChecksumAlgorithm.ofJson? 4 "checksum_type"
    unf := ← r.optional asText? 5 "unf"
    storageIdentifier := ← r.required asText? 6 "storage_identifier"
    publicationDate := ← r.optional Time.Instant.ofJson? 7 "publication_date"
    createDate := ← r.optional Time.Instant.ofJson? 8 "create_date"
    creator := ← r.optional EntityId.ofJson? 9 "creator"
    modificationTime := ← r.optional Time.Instant.ofJson? 10 "modification_time"
    globalId := ← r.optional GlobalId.ofJson? 11 "global_id"
    globalIdCreateTime := ← r.optional Time.Instant.ofJson? 12 "global_id_create_time"
    identifierRegistered := ← r.required asBool? 13 "identifier_registered" }

end DataFile

namespace Version

def toJson (v : Version) : Json :=
  .obj [("id", v.id.toJson), ("state", .str v.state.name),
    ("version_number", ofOption (fun n => Json.ofNat n.toNat) v.versionNumber),
    ("minor_version_number", ofOption (fun n => Json.ofNat n.toNat) v.minorVersionNumber),
    ("fields", ofList Field.toJson v.fields),
    ("file_metadatas", ofList FileMetadata.toJson v.fileMetadata),
    ("create_time", ofOption Time.Instant.toJson v.createTime),
    ("last_update_time", ofOption Time.Instant.toJson v.lastUpdateTime),
    ("release_time", ofOption Time.Instant.toJson v.releaseTime),
    ("unf", ofText? v.unf),
    ("validation_problems", ofList Violation.toJson v.validationProblems)]

def ofJson? (j : Json) : Option Version := do
  let r ← asRecord? 11 j
  return {
    id := ← r.required EntityId.ofJson? 0 "id"
    state := ← r.required VersionState.ofJson? 1 "state"
    versionNumber := ← r.optional versionNumber? 2 "version_number"
    minorVersionNumber := ← r.optional versionNumber? 3 "minor_version_number"
    fields := ← r.required (asList? Field.ofJson?) 4 "fields"
    fileMetadata := ← r.required (asList? FileMetadata.ofJson?) 5 "file_metadatas"
    createTime := ← r.optional Time.Instant.ofJson? 6 "create_time"
    lastUpdateTime := ← r.optional Time.Instant.ofJson? 7 "last_update_time"
    releaseTime := ← r.optional Time.Instant.ofJson? 8 "release_time"
    unf := ← r.optional asText? 9 "unf"
    validationProblems := ← r.required (asList? Violation.ofJson?) 10 "validation_problems" }

end Version

namespace Dataset

def toJson (d : Dataset) : Json :=
  .obj [("id", d.id.toJson), ("owner", .str d.owner),
    ("creator", ofOption EntityId.toJson d.creator),
    ("global_id", ofOption GlobalId.toJson d.globalId),
    ("global_id_create_time", ofOption Time.Instant.toJson d.globalIdCreateTime),
    ("identifier_registered", .bool d.identifierRegistered), ("harvested", .bool d.harvested),
    ("versions", ofList Version.toJson d.versions), ("files", ofList DataFile.toJson d.files),
    ("categories", ofList Category.toJson d.categories),
    ("thumbnail_file", ofOption EntityId.toJson d.thumbnailFile),
    ("create_time", d.createTime.toJson),
    ("modification_time", ofOption Time.Instant.toJson d.modificationTime),
    ("last_export_time", ofOption Time.Instant.toJson d.lastExportTime)]

def ofJson? (j : Json) : Option Dataset := do
  let r ← asRecord? 14 j
  return {
    id := ← r.required EntityId.ofJson? 0 "id"
    owner := ← r.required asText? 1 "owner"
    creator := ← r.optional EntityId.ofJson? 2 "creator"
    globalId := ← r.optional GlobalId.ofJson? 3 "global_id"
    globalIdCreateTime := ← r.optional Time.Instant.ofJson? 4 "global_id_create_time"
    identifierRegistered := ← r.required asBool? 5 "identifier_registered"
    harvested := ← r.required asBool? 6 "harvested"
    versions := ← r.required (asList? Version.ofJson?) 7 "versions"
    files := ← r.required (asList? DataFile.ofJson?) 8 "files"
    categories := ← r.required (asList? Category.ofJson?) 9 "categories"
    thumbnailFile := ← r.optional EntityId.ofJson? 10 "thumbnail_file"
    createTime := ← r.required Time.Instant.ofJson? 11 "create_time"
    modificationTime := ← r.optional Time.Instant.ofJson? 12 "modification_time"
    lastExportTime := ← r.optional Time.Instant.ofJson? 13 "last_export_time" }

end Dataset

namespace Lock

def toJson (l : Lock) : Json :=
  .obj [("id", l.id.toJson), ("dataset_id", l.dataset.toJson), ("reason", .str l.reason.stored),
    ("user_id", ofOption EntityId.toJson l.user), ("start_time", l.startTime.toJson),
    ("info", ofText? l.info)]

def ofJson? (j : Json) : Option Lock := do
  let r ← asRecord? 6 j
  return {
    id := ← r.required EntityId.ofJson? 0 "id"
    dataset := ← r.required EntityId.ofJson? 1 "dataset_id"
    reason := ← r.required LockReason.ofJson? 2 "reason"
    user := ← r.optional EntityId.ofJson? 3 "user_id"
    startTime := ← r.required Time.Instant.ofJson? 4 "start_time"
    info := ← r.optional asText? 5 "info" }

end Lock

namespace User

def toJson (u : User) : Json :=
  .obj [("id", u.id.toJson), ("identifier", .str u.identifier), ("email", .str u.email),
    ("superuser", .bool u.superuser), ("muted_emails", u.mutedEmails.toJson),
    ("muted_notifications", u.mutedNotifications.toJson)]

def ofJson? (j : Json) : Option User := do
  let r ← asRecord? 6 j
  return {
    id := ← r.required EntityId.ofJson? 0 "id"
    identifier := ← r.required asText? 1 "identifier"
    email := ← r.required asText? 2 "email"
    superuser := ← r.required asBool? 3 "superuser"
    mutedEmails := ← r.required TypeSet.ofJson? 4 "muted_emails"
    mutedNotifications := ← r.required TypeSet.ofJson? 5 "muted_notifications" }

end User

namespace RoleAssignment

def toJson (a : RoleAssignment) : Json :=
  .obj [("dataset_id", a.dataset.toJson), ("user_id", a.user.toJson), ("role", .str a.role.name)]

def ofJson? (j : Json) : Option RoleAssignment := do
  let r ← asRecord? 3 j
  return {
    dataset := ← r.required EntityId.ofJson? 0 "dataset_id"
    user := ← r.required EntityId.ofJson? 1 "user_id"
    role := ← r.required Role.ofJson? 2 "role" }

end RoleAssignment

namespace Notification

def toJson (n : Notification) : Json :=
  .obj [("id", n.id.toJson), ("user_id", n.user.toJson), ("send_date", n.sendDate.toJson),
    ("notification_type", .str n.type.name), ("object_id", .str n.object),
    ("requestor_id", ofOption EntityId.toJson n.requestor), ("read", .bool n.read),
    ("emailed", .bool n.emailed), ("additional_info", ofText? n.additionalInfo)]

def ofJson? (j : Json) : Option Notification := do
  let r ← asRecord? 9 j
  return {
    id := ← r.required EntityId.ofJson? 0 "id"
    user := ← r.required EntityId.ofJson? 1 "user_id"
    sendDate := ← r.required Time.Instant.ofJson? 2 "send_date"
    type := ← r.required NotificationType.ofJson? 3 "notification_type"
    object := ← r.required asText? 4 "object_id"
    requestor := ← r.optional EntityId.ofJson? 5 "requestor_id"
    read := ← r.required asBool? 6 "read"
    emailed := ← r.required asBool? 7 "emailed"
    additionalInfo := ← r.optional asText? 8 "additional_info" }

end Notification

end Depository
