/-!
# Reasons

The closed set of words with which a client of the data source is told why a request failed.
-/

namespace ChartQuery

/-- Why a request failed, as a client of the data source is told. -/
inductive Reason
  | notModified
  | userNotAuthenticated
  | unknownDataSourceId
  | accessDenied
  | unsupportedQueryOperation
  | invalidQuery
  | invalidRequest
  | internalError
  | notSupported
  | illegalFormattingPatterns
  | other
  | undefined
  deriving DecidableEq, Inhabited, Repr

namespace Reason

/-- All reasons, in the order in which they are declared. -/
def all : List Reason :=
  [notModified, userNotAuthenticated, unknownDataSourceId, accessDenied,
   unsupportedQueryOperation, invalidQuery, invalidRequest, internalError, notSupported,
   illegalFormattingPatterns, other, undefined]

/-- The word for a reason, in lower case with underscores. -/
def text : Reason → String
  | notModified => "not_modified"
  | userNotAuthenticated => "user_not_authenticated"
  | unknownDataSourceId => "unknown_data_source_id"
  | accessDenied => "access_denied"
  | unsupportedQueryOperation => "unsupported_query_operation"
  | invalidQuery => "invalid_query"
  | invalidRequest => "invalid_request"
  | internalError => "internal_error"
  | notSupported => "not_supported"
  | illegalFormattingPatterns => "illegal_formatting_patterns"
  | other => "other"
  | undefined => "undefined"

/-- The reason that a word stands for. -/
def ofText? (s : String) : Option Reason :=
  all.find? fun r => r.text == s

/-- Every reason is read back from its word. -/
theorem ofText?_text (r : Reason) : ofText? r.text = some r := by
  cases r <;> decide

end Reason

end ChartQuery
