import Depository.Configuration.Basic
import Depository.Document.Search
import Depository.Service.Exchange
import Depository.Service.Status

/-!
# The search index

An update of the index: unless it is minor, the documents about the files of the dataset are
deleted first; then the documents of its last version are posted. An index that is disabled
accepts everything and does nothing.
-/

namespace Depository.Service.Solr

/-- The command that deletes the documents about the files of a dataset. -/
def deletion (d : DatasetId) : Json :=
  .obj [("delete", .obj [("query", .str ("parentId:\"" ++ Search.datasetKey d ++ "\""))])]

/-- What is posted for an update, in order. -/
def commands (d : Dataset) (minor : Bool) : List Json :=
  (if minor then [] else [deletion d.id]) ++ [.arr (Search.documents d)]

def post (s : IndexSettings) (body : Json) : Request where
  method := .post
  url := Text.dropEndChars '/' s.solrUrl ++ "/update?commit=true"
  headers := [("content-type", "application/json")]
  body := .json body

/-- Posts commands one after another, up to the first that is not accepted. -/
def postAll (s : IndexSettings) : List Json → Conversation Unit
  | [] => .succeed ()
  | body :: rest => .ask (post s body) fun
    | none => .fail (.index ((post s body).title ++ ": " ++ unsent))
    | some answer =>
      if answer.isSuccess then postAll s rest
      else
        .fail (.index
          ("Solr returned HTTP " ++ statusText answer.status ++ ": " ++ answer.body))

/-- Updates the index. -/
def update (s : IndexSettings) (d : Dataset) (minor : Bool) : Conversation Unit :=
  if s.enabled then postAll s (commands d minor) else .succeed ()

end Depository.Service.Solr
