import RecordSearch.Text.Basic

/-!
# Why a search fails
-/

namespace RecordSearch

/-- The reasons for which a query cannot be read or compiled. -/
inductive SearchError
  | emptyQuery
  | nestedEmpty
  | linkedWithoutFields
  | documents
  | malformedPattern
deriving DecidableEq, Repr

namespace SearchError

/-- The reason in words; what is wrong with a pattern is said by its reader. -/
def message (ofPattern : Text) : SearchError → Text
  | .emptyQuery => "empty query".toList
  | .nestedEmpty =>
      ("unrecognized query node type: " ++
        "empty query nested inside another query").toList
  | .linkedWithoutFields =>
      ("unrecognized query node type: " ++
        "linked fields query without fields").toList
  | .documents =>
      ("DocID queries require an index and " ++
        "cannot be evaluated as an in-memory predicate").toList
  | .malformedPattern => "invalid regex pattern: ".toList ++ ofPattern

end SearchError

end RecordSearch
