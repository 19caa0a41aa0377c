import SearchTables.Http.DomainName
import SearchTables.Json.Shown
import SearchTables.Path

/-! # What can go wrong

Every failure is a **cause** that carries what it is about. Its `family` says which kind of handler is
concerned, its `message` is safe to show to a user, and its `details` are meant for a log. Failures that
come from a value no rule covers have a family only. -/

namespace SearchTables

/-- How the last attempt of a request failed. -/
inductive FailedAttempt where
  /-- An answer arrived whose status is no success. -/
  | status (code : Nat) (reason body : String)
  /-- No answer arrived. -/
  | network (name message : String)
deriving DecidableEq, Repr

/-- A request that was given up. -/
structure RequestFailure where
  method : String
  path : String
  context : String
  last : FailedAttempt
  retries : Nat
deriving DecidableEq, Repr

namespace RequestFailure

/-- The status of the last answer, zero when there was none. -/
def statusCode (f : RequestFailure) : Nat :=
  match f.last with
  | .status code _ _ => code
  | .network _ _ => 0

/-- One line about the last attempt. -/
def summary (f : RequestFailure) : String :=
  match f.last with
  | .status code reason _ =>
      String.ofList (Text.trimEndChars ("HTTP " ++ toString code ++ " " ++ reason).toList)
  | .network name message => name ++ ": " ++ message

/-- The end of the message when there were retries. -/
def retrySuffix (retries : Nat) : String :=
  if retries = 0 then "" else " (after " ++ toString retries ++ " retries)"

/-- The message: the context, the last attempt, and the number of retries if there were any. -/
def message (f : RequestFailure) : String :=
  (if f.context = "" then f.summary else f.context ++ ": " ++ f.summary) ++ retrySuffix f.retries

/-- The details: the request and the start of the body that came back. -/
def details (f : RequestFailure) : String :=
  let request := f.method ++ " " ++ f.path ++ ": " ++ f.summary
  match f.last with
  | .status _ _ body => request ++ ": " ++ Text.first 500 body
  | .network _ _ => request

end RequestFailure

/-- The kinds of failures that callers tell apart. -/
inductive ErrorFamily where
  | configuration
  | transport
  | schemaConflict
  | unsafePushdown
  | decode
  | filterSyntax
  | fieldName
  | depth
  | settings
  /-- A numeral or a value outside its domain. -/
  | badValue
  /-- A value of a kind that has no such operation. -/
  | badType
  /-- A name that nothing goes by. -/
  | missingKey
  /-- A member asked of a value that has none. -/
  | missingMember
  /-- A moment or a number out of range. -/
  | outOfRange
  /-- A client that is closed, or a peer in the wrong state. -/
  | badState
  | badUrl
  /-- An argument that was not given. -/
  | missingArgument
  /-- An expression of the right shape that means nothing. -/
  | badExpression
  /-- A text that has no bytes. -/
  | notEncodable
  /-- Bytes that are no text. -/
  | notDecodable
  /-- A decimal that takes part in no comparison. -/
  | badDecimal
  /-- A host without a name. -/
  | badHostName (fault : DomainFault)
deriving DecidableEq, Repr

/-- A rule that a setting breaks. -/
inductive SettingRule where
  | intParsing | intParsingSize | intFromFloat | intType
  | floatParsing | floatType | finiteNumber
  | boolParsing | boolType
  | stringType | stringTooShort | stringUnicode
  | greaterThan | greaterThanEqual | lessThanEqual
deriving DecidableEq, Repr

/-- The code of a rule. -/
def SettingRule.code : SettingRule → String
  | .intParsing => "int_parsing"
  | .intParsingSize => "int_parsing_size"
  | .intFromFloat => "int_from_float"
  | .intType => "int_type"
  | .floatParsing => "float_parsing"
  | .floatType => "float_type"
  | .finiteNumber => "finite_number"
  | .boolParsing => "bool_parsing"
  | .boolType => "bool_type"
  | .stringType => "string_type"
  | .stringTooShort => "string_too_short"
  | .stringUnicode => "string_unicode"
  | .greaterThan => "greater_than"
  | .greaterThanEqual => "greater_than_equal"
  | .lessThanEqual => "less_than_equal"

/-- A setting that breaks a rule. -/
structure SettingFault where
  field : String
  rule : SettingRule
deriving DecidableEq, Repr

/-- What went wrong. -/
inductive Error where
  | missingHost
  | lonelyCredential (usernameSet passwordSet : Bool)
  | badLimit (limit : Json)
  | badOffset (offset : Json)
  | missingIndex
  | queryNotJson
  | queryNotObject (kind : String)
  | badSettings (faults : List SettingFault)
  | requestFailed (failure : RequestFailure)
  | typeConflict (path firstIndex firstType secondIndex secondType : String)
  | textWithoutCompanion (field : String)
  | geometryInLocalFilter (filter : String) (calls : List String)
  | bodyNotJson
  | mappingNotObject (kind : String)
  | mappingEntryNotObject (index kind : String)
  | mappingResponseNotObject (kind : String)
  | responseWithoutHits
  | hitsNotArray
  | filterNotExpression
  | badTimestamp
  | badPath (fault : Path.Fault)
  | unknownColumn (column : String)
  | unknownColumnOfIndex (column index : String)
  | expressionTooDeep (depth limit : Int)
  | predicateTooDeep (limit : Int)
  /-- A numeral or a value that its operation refuses. -/
  | refusedValue
  /-- A value of a kind that its operation refuses. -/
  | refusedType
  /-- A name that nothing goes by. -/
  | unknownName
  /-- A member asked of a value that has none. -/
  | noMembers
  /-- A moment or a number that leaves its range. -/
  | outOfRange
  /-- A request after the client was closed, or a fault below the protocol. -/
  | badState
  /-- An address that is no address. -/
  | badUrl
  /-- A form of expression without the argument that it needs. -/
  | missingArgument
  /-- A form of expression that names no variable. -/
  | missingVariable
  /-- A text that cannot be sent. -/
  | notEncodable
  /-- A body that cannot be read as text. -/
  | notDecodable
  /-- A comparison with a decimal that takes part in none. -/
  | badDecimal
  /-- A host whose ASCII form stands for no name. -/
  | badHostName (fault : DomainFault)
deriving Inhabited

namespace Error

/-- The family of a failure. -/
def family : Error → ErrorFamily
  | .missingHost | .lonelyCredential _ _ | .badLimit _ | .badOffset _ | .missingIndex
  | .queryNotJson | .queryNotObject _ => .configuration
  | .badSettings _ => .settings
  | .requestFailed _ => .transport
  | .typeConflict _ _ _ _ _ => .schemaConflict
  | .textWithoutCompanion _ | .geometryInLocalFilter _ _ => .unsafePushdown
  | .bodyNotJson | .mappingNotObject _ | .mappingEntryNotObject _ _ | .mappingResponseNotObject _
  | .responseWithoutHits | .hitsNotArray => .decode
  | .filterNotExpression | .badTimestamp => .filterSyntax
  | .badPath _ | .unknownColumn _ | .unknownColumnOfIndex _ _ => .fieldName
  | .expressionTooDeep _ _ | .predicateTooDeep _ => .depth
  | .refusedValue => .badValue
  | .refusedType => .badType
  | .unknownName => .missingKey
  | .noMembers => .missingMember
  | .outOfRange => .outOfRange
  | .badState => .badState
  | .badUrl => .badUrl
  | .missingArgument => .missingArgument
  | .missingVariable => .badExpression
  | .notEncodable => .notEncodable
  | .notDecodable => .notDecodable
  | .badDecimal => .badDecimal
  | .badHostName fault => .badHostName fault

/-- Whether a failure is one that this library describes, as opposed to a value no rule covers. -/
def isDescribed (e : Error) : Bool :=
  match e.family with
  | .configuration | .transport | .schemaConflict | .unsafePushdown | .decode | .filterSyntax
  | .fieldName | .depth => true
  | _ => false

/-- The message about a body that is not what it should be. -/
def invalidResponse : String := "invalid JSON response from Elasticsearch"

/-- The message about a fault of a path. -/
def pathMessage : Path.Fault → String
  | .empty => "field name cannot be empty"
  | .tooLong _ => "field name too long"
  | .badSegment _ _ => "invalid field name format"

/-- The details of a fault of a path. -/
def pathDetails : Path.Fault → String
  | .empty => "empty field path provided"
  | .tooLong path =>
      "field path '" ++ Text.first 64 path ++ "...' exceeds " ++
        toString Path.maxLength ++ " characters"
  | .badSegment path segment =>
      "field path '" ++ path ++ "' has an empty or invalid segment " ++ Text.quoted segment

/-- A truth value in diagnostics. -/
def flag (b : Bool) : String := if b then "True" else "False"

/-- The text shown to a user, for the failures that have one. -/
def message? : Error → Option String
  | .missingHost => some "elasticsearch_query requires 'host' parameter"
  | .lonelyCredential _ _ => some "username and password must be given together"
  | .badLimit _ => some "limit must be a non-negative integer"
  | .badOffset _ => some "offset must be a non-negative integer"
  | .missingIndex => some "elasticsearch_query requires 'index' parameter"
  | .queryNotJson | .queryNotObject _ => some "query parameter must be a JSON object"
  | .requestFailed failure => some failure.message
  | .typeConflict path firstIndex firstType secondIndex secondType =>
      some ("Incompatible field types for '" ++ path ++ "': index '" ++ firstIndex ++ "' has type " ++
        firstType ++ ", but index '" ++ secondIndex ++ "' has type " ++ secondType)
  | .textWithoutCompanion field =>
      some ("Cannot filter on text field '" ++ field ++ "' because it lacks a .keyword subfield. " ++
        "Options:\n" ++ "  - Add a .keyword subfield to the Elasticsearch mapping\n" ++
        "  - Use the 'query' parameter with native Elasticsearch text queries")
  | .geometryInLocalFilter _ _ =>
      some ("Cannot evaluate geospatial functions outside Elasticsearch. Keep geo_* calls " ++
        "in a top-level && of the filter so they can be pushed down")
  | .bodyNotJson | .mappingNotObject _ | .mappingEntryNotObject _ _ | .mappingResponseNotObject _
  | .responseWithoutHits | .hitsNotArray => some invalidResponse
  | .filterNotExpression => some "invalid filter expression"
  | .badTimestamp => some "invalid timestamp literal"
  | .badPath fault => some (pathMessage fault)
  | .unknownColumn _ | .unknownColumnOfIndex _ _ => some "unknown column"
  | .expressionTooDeep _ _ => some "maximum recursion depth exceeded"
  | .predicateTooDeep _ => some "predicate nesting too deep"
  | .badSettings _ | .refusedValue | .refusedType | .unknownName | .noMembers | .outOfRange
  | .badState | .badUrl | .missingArgument | .missingVariable | .notEncodable | .notDecodable
  | .badDecimal | .badHostName _ => none

/-- The text meant for a log. A failure that stems from the text of a value it could not read has none of
its own. -/
def details? : Error → Option String
  | .missingHost => some "host is empty"
  | .lonelyCredential usernameSet passwordSet =>
      some ("username set: " ++ flag usernameSet ++ ", password set: " ++ flag passwordSet)
  | .badLimit limit => some ("limit=" ++ limit.shown)
  | .badOffset offset => some ("offset=" ++ offset.shown)
  | .missingIndex => some "index is empty"
  | .queryNotObject kind => some ("query parsed to " ++ kind)
  | .requestFailed failure => some failure.details
  | .typeConflict _ firstIndex _ secondIndex _ =>
      some ("merging index " ++ Text.quoted secondIndex ++ " into fields first declared by " ++
        Text.quoted firstIndex)
  | .textWithoutCompanion field =>
      some ("full-text field " ++ Text.quoted field ++ " has no keyword multi-field")
  | .geometryInLocalFilter filter calls =>
      some ("filter " ++ Text.quoted filter ++ " needs client-side evaluation but calls " ++
        ", ".intercalate calls)
  | .mappingNotObject kind => some ("mapping body is " ++ kind)
  | .mappingEntryNotObject index kind =>
      some ("mapping entry for index " ++ Text.quoted index ++ " is " ++ kind)
  | .mappingResponseNotObject kind => some ("mapping response is " ++ kind)
  | .hitsNotArray => some "hits.hits is not an array"
  | .badPath fault => some (pathDetails fault)
  | .unknownColumn column => some ("column " ++ Text.quoted column ++ " is not part of the schema")
  | .unknownColumnOfIndex column index =>
      some ("column " ++ Text.quoted column ++ " is not part of the schema for " ++ Text.quoted index)
  | .expressionTooDeep depth limit =>
      some ("depth " ++ toString depth ++ " exceeds limit " ++ toString limit)
  | .predicateTooDeep limit => some ("predicate depth exceeds " ++ toString limit)
  | .queryNotJson | .bodyNotJson | .responseWithoutHits | .filterNotExpression | .badTimestamp
  | .badSettings _ | .refusedValue | .refusedType | .unknownName | .noMembers | .outOfRange
  | .badState | .badUrl | .missingArgument | .missingVariable | .notEncodable | .notDecodable
  | .badDecimal | .badHostName _ => none

end Error

end SearchTables
