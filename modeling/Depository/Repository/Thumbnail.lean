import Depository.Repository.Call

/-!
# Thumbnails

Choosing one of the files of a stored dataset as its thumbnail, and removing the thumbnail.
-/

namespace Depository.Repository

open Depository.Action

/-- Makes a file of a dataset its thumbnail. -/
def setThumbnail (id : DatasetId) (file : DataFileId) : Action Dataset := do
  let d ← findDataset id
  match d.setThumbnail file with
  | (true, d) => commit (.merge d)
  | (false, _) =>
    fail (.validation ("data file " ++ file.text ++ " does not belong to dataset " ++ id.text) [])

/-- Removes the thumbnail of a dataset; without one nothing is stored. -/
def removeThumbnail (id : DatasetId) : Action Dataset := do
  let d ← findDataset id
  match d.removeThumbnail with
  | (some _, d) => commit (.merge d)
  | (none, d) => return d

end Depository.Repository
