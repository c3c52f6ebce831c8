import DocSource.Host.Request
import DocSource.Host.Service

/-! The entry points of the host: requests in, responses out, nothing kept between them. -/

namespace DocSource

namespace Request

/-- The queries of a request, unreadable ones marked as such. -/
def queryList (request : Request) : List Query :=
  request.queries.map fun query => Query.ofTextOrRejected query.refId query.model query.samples

/-- Answers a request; unusable settings are the one error of the whole response. -/
def answer (request : Request) (store : Store) : Response × Store :=
  match Settings.ofText request.source.settings with
  | .error error => (.fallback error, store)
  | .ok settings => settings.answer request.range request.queryList store

/-- Answers the text of a request with the text of a response. -/
def answerText (text : String) (store : Store) : Except Error String × Store :=
  match Request.ofText text with
  | .error error => (.error error, store)
  | .ok request =>
    let (response, store) := request.answer store
    (.ok response.text, store)

end Request

/-- Tests the connection of a data source. -/
def SourceInfo.testConnection (source : SourceInfo) (store : Store) : ConnectionStatus × Store :=
  match Settings.ofText source.settings with
  | .error error => (⟨false, error.message⟩, store)
  | .ok settings => settings.testConnection store

end DocSource
