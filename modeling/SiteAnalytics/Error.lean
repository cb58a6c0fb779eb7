import SiteAnalytics.Bucket.Basic

/-!
# Errors

What can be wrong with a request is a closed list of causes, `ValidationError`. Each cause has a
code for programs and a message for people. `EngineError` adds what can go wrong while a valid
request is answered, and `EngineError.response` says what a client is told: an HTTP status, a code
and a message. Details of a failed query are kept from clients.

Times that leave the calendar are an outcome of their own, `outOfCalendar`: no answer is given.
-/

namespace SiteAnalytics

/-- One end of an explicit timeframe. -/
inductive TimeframeEnd
  | start | stop
  deriving DecidableEq, Repr

/-- The request field that holds an end of the timeframe. -/
def TimeframeEnd.fieldName : TimeframeEnd → String
  | start => "from"
  | stop => "to"

/-- Why a request is refused. -/
inductive ValidationError
  /-- Neither a period nor both ends of a timeframe are given. -/
  | missingTimeframe
  /-- An end of the timeframe is no date, or its bucket has no end in the calendar. -/
  | invalidDate (field : TimeframeEnd)
  /-- The timeframe ends before it starts. -/
  | invertedRange
  /-- The text is no period. -/
  | invalidPeriod (raw : String)
  /-- No bucket fits a range of this length. -/
  | rangeTooLarge
  /-- The bucket does not fit a range of this many days. -/
  | bucketNotAllowed (bucket : Bucket) (days : Int)
  /-- The text names no bucket. -/
  | invalidTimeBucket (raw : String)
  /-- The filters are JSON, but no list of clauses. -/
  | invalidFilterShape
  /-- The column may not be filtered on. -/
  | unsupportedFilter (column : String)
  /-- The steps make no funnel, for the given reason. -/
  | invalidFunnel (reason : String)
  /-- The text is no error id. -/
  | invalidErrorId (raw : String)
  deriving DecidableEq, Repr

namespace ValidationError

/-- The code of a cause. -/
def code : ValidationError → String
  | missingTimeframe => "missing_timeframe"
  | invalidDate _ => "invalid_date"
  | invertedRange => "inverted_range"
  | invalidPeriod _ => "invalid_period"
  | rangeTooLarge => "range_too_large"
  | bucketNotAllowed _ _ => "bucket_not_allowed"
  | invalidTimeBucket _ => "invalid_time_bucket"
  | invalidFilterShape => "invalid_filter_shape"
  | unsupportedFilter _ => "unsupported_filter"
  | invalidFunnel _ => "invalid_funnel"
  | invalidErrorId _ => "invalid_error_id"

/-- The wording of a cause. -/
def message : ValidationError → String
  | missingTimeframe => "either a period or a from/to pair is required"
  | invalidDate field => "the timeframe (" ++ field.fieldName ++ ") is incorrectly represented"
  | invertedRange => "the timeframe is incorrect: from must not be after to"
  | invalidPeriod raw => "unknown period: " ++ raw
  | rangeTooLarge => "the specified date range is too large"
  | bucketNotAllowed bucket days =>
    "the " ++ bucket.name ++ " time bucket is not allowed for a " ++ toString days ++ " day range"
  | invalidTimeBucket raw => "invalid time bucket: " ++ raw
  | invalidFilterShape => "filters must be an array of filter clauses"
  | unsupportedFilter column => "the provided filters are not supported: " ++ column
  | invalidFunnel reason => "invalid funnel: " ++ reason
  | invalidErrorId raw => "invalid error id: " ++ raw

end ValidationError

/-- Why a time window cannot be given. -/
inductive WindowError
  /-- The request is refused. -/
  | invalid (cause : ValidationError)
  /-- A time on the way lies outside the calendar. -/
  | outOfCalendar
  deriving DecidableEq, Repr

instance : Coe ValidationError WindowError := ⟨.invalid⟩

/-- Why a request is not answered. -/
inductive EngineError
  /-- The request is refused. -/
  | validation (cause : ValidationError)
  /-- Something the request names does not exist. -/
  | notFound (what : String)
  /-- A store, the cache or the network failed. -/
  | unavailable (reason : String)
  /-- A time on the way lies outside the calendar. -/
  | outOfCalendar
  deriving DecidableEq, Repr

instance : Coe ValidationError EngineError := ⟨.validation⟩

instance : Coe WindowError EngineError :=
  ⟨fun
    | .invalid cause => .validation cause
    | .outOfCalendar => .outOfCalendar⟩

/-- What a client is told about an error. -/
structure ErrorResponse where
  status : Nat
  code : String
  message : String
  deriving DecidableEq, Repr

namespace EngineError

/-- What a client is told about an error; nothing of a failure behind the scenes. -/
def response : EngineError → ErrorResponse
  | validation cause => ⟨400, cause.code, cause.message⟩
  | notFound what => ⟨404, "not_found", what ++ " not found"⟩
  | unavailable _ | outOfCalendar =>
    ⟨503, "upstream_unavailable", "Analytics are temporarily unavailable, please try again later"⟩

/-- The wording for logs, with all details. -/
def message : EngineError → String
  | validation cause => cause.message
  | notFound what => "not found: " ++ what
  | unavailable reason => "upstream query failed: " ++ reason
  | outOfCalendar => "a time lies outside the calendar"

end EngineError

end SiteAnalytics
