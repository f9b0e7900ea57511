/-!
# Functions

A known function is printed under one name, whichever of its names was written, and takes a
bounded number of arguments. Functions that are not known take any arguments. All names are in
capitals.
-/

namespace QueryBook.Sql.Function

/-- How a function is printed and how many arguments it takes. -/
structure Signature where
  name : String
  least : Nat
  most? : Option Nat
  deriving DecidableEq, Repr

/-- Other names of functions, each with the printed one. -/
def synonyms : List (String × String) :=
  [("APPROX_COUNT_DISTINCT", "APPROX_DISTINCT"), ("ARGMAX", "ARG_MAX"), ("ARGMIN", "ARG_MIN"),
   ("ARRAYAGG", "ARRAY_AGG"), ("ARRAY_CAT", "ARRAY_CONCAT"), ("ARRAY_FILTER", "FILTER"),
   ("ARRAY_HAS", "ARRAY_CONTAINS"), ("ARRAY_HAS_ALL", "ARRAY_CONTAINS_ALL"),
   ("ARRAY_INTERSECTION", "ARRAY_INTERSECT"), ("ARRAY_JOIN", "ARRAY_TO_STRING"),
   ("ARRAY_LENGTH", "ARRAY_SIZE"), ("BOOLAND_AGG", "LOGICAL_AND"), ("BOOLOR_AGG", "LOGICAL_OR"),
   ("BOOL_AND", "LOGICAL_AND"), ("BOOL_OR", "LOGICAL_OR"), ("CEILING", "CEIL"),
   ("CHARACTER_LENGTH", "LENGTH"), ("CHAR_LENGTH", "LENGTH"), ("COUNTIF", "COUNT_IF"),
   ("DATEFROMPARTS", "DATE_FROM_PARTS"), ("DATE_DIFF", "DATEDIFF"),
   ("DAYOFMONTH", "DAY_OF_MONTH"), ("DAYOFWEEK", "DAY_OF_WEEK"), ("DAYOFYEAR", "DAY_OF_YEAR"),
   ("ENDSWITH", "ENDS_WITH"), ("GENERATE_UUID", "UUID"), ("GEN_RANDOM_UUID", "UUID"),
   ("IFNULL", "COALESCE"), ("INSERT", "STUFF"), ("INSTR", "STR_POSITION"), ("ISINF", "IS_INF"),
   ("ISNAN", "IS_NAN"), ("ISODOW", "DAYOFWEEK_ISO"), ("JSON_PARSE", "PARSE_JSON"),
   ("LAST_DAY_OF_MONTH", "LAST_DAY"), ("LCASE", "LOWER"), ("LEFTPAD", "LPAD"), ("LEN", "LENGTH"),
   ("MAX_BY", "ARG_MAX"), ("MIN_BY", "ARG_MIN"), ("NVL", "COALESCE"), ("POW", "POWER"),
   ("RANDOM", "RAND"), ("RIGHTPAD", "RPAD"), ("SHA1", "SHA"), ("SIGNUM", "SIGN"),
   ("SPLIT_BY_STRING", "STRING_TO_ARRAY"), ("STARTSWITH", "STARTS_WITH"), ("STDEV", "STDDEV"),
   ("STRPOS", "STR_POSITION"), ("SUBSTR", "SUBSTRING"), ("TIMEFROMPARTS", "TIME_FROM_PARTS"),
   ("TIMESTAMPFROMPARTS", "TIMESTAMP_FROM_PARTS"), ("TIMESTAMP_DIFF", "TIMESTAMPDIFF"),
   ("TO_HEX", "HEX"), ("TRUNCATE", "TRUNC"), ("UCASE", "UPPER"), ("UUID_STRING", "UUID"),
   ("VARIANCE_SAMP", "VARIANCE"), ("VAR_POP", "VARIANCE_POP"), ("VAR_SAMP", "VARIANCE"),
   ("WEEKOFYEAR", "WEEK_OF_YEAR")]

/-- Functions of exactly one argument. -/
def ofOne : List String :=
  ["ABS", "ACOS", "ACOSH", "ANY_VALUE", "ARRAY_REVERSE", "ASCII", "ASIN", "ASINH", "ATANH",
   "AVG", "CBRT", "COS", "COSH", "COT", "COTH", "COUNT_IF", "CSC", "CSCH", "DATE_FROM_UNIX_DATE",
   "DAY", "DAYOFWEEK_ISO", "DAY_OF_MONTH", "DAY_OF_WEEK", "DAY_OF_YEAR", "DEGREES", "EXP",
   "FACTORIAL", "FIRST_VALUE", "FROM_BASE64", "HEX", "HOUR", "IS_INF", "IS_NAN", "LAST_VALUE",
   "LN", "LOGICAL_AND", "LOGICAL_OR", "LOWER", "MD5", "MEDIAN", "MINUTE", "MONTH", "QUARTER",
   "RADIANS", "REVERSE", "SEC", "SECH", "SECOND", "SHA", "SIGN", "SIN", "SINH", "SOUNDEX",
   "SPACE", "SQRT", "STDDEV", "STDDEV_POP", "STDDEV_SAMP", "SUM", "TAN", "TANH", "TO_BASE64",
   "TYPEOF", "UNICODE", "UPPER", "VARIANCE", "VARIANCE_POP", "WEEK_OF_YEAR", "YEAR"]

/-- Functions of exactly two arguments. -/
def ofTwo : List String :=
  ["ARRAY_ALL", "ARRAY_ANY", "ATAN2", "CORR", "COVAR_POP", "COVAR_SAMP", "ENDS_WITH", "FILTER",
   "LEFT", "NULLIF", "POWER", "QUANTILE", "REPEAT", "RIGHT", "SAFE_DIVIDE", "STARTS_WITH"]

/-- Functions of at least one argument. -/
def ofMany : List String :=
  ["COALESCE", "CONCAT", "CONCAT_WS", "GREATEST", "LEAST", "MAX", "MIN"]

/-- Functions of a bounded number of arguments, the bounds behind the name. -/
def bounded : List (String × Nat × Nat) :=
  [("APPROX_DISTINCT", 1, 2), ("APPROX_QUANTILE", 2, 5), ("ARG_MAX", 2, 3), ("ARG_MIN", 2, 3),
   ("ARRAY_AGG", 1, 2), ("ARRAY_CONTAINS", 2, 3), ("ARRAY_SIZE", 1, 2),
   ("ARRAY_TO_STRING", 2, 3), ("ATAN", 1, 2), ("CEIL", 1, 3), ("CONTAINS", 2, 3),
   ("CURRENT_DATE", 0, 1), ("CURRENT_TIME", 0, 1), ("CURRENT_TIMESTAMP", 0, 2),
   ("CURRENT_USER", 0, 1), ("DATEDIFF", 2, 5), ("DATE_ADD", 2, 3), ("DATE_SUB", 2, 3),
   ("DATE_TRUNC", 2, 4), ("EXISTS", 1, 2), ("FIRST", 1, 2), ("FLOOR", 1, 3),
   ("GROUP_CONCAT", 1, 3), ("INITCAP", 1, 2), ("LAG", 1, 3), ("LAST_DAY", 1, 2), ("LEAD", 1, 3),
   ("LENGTH", 1, 3), ("LEVENSHTEIN", 2, 6), ("LOG", 1, 2), ("LPAD", 2, 4), ("LTRIM", 1, 4),
   ("MONTHS_BETWEEN", 2, 3), ("NTH_VALUE", 2, 3), ("NTILE", 0, 1), ("NVL2", 2, 3),
   ("PARSE_JSON", 1, 3), ("PERCENTILE_CONT", 1, 2), ("PERCENTILE_DISC", 1, 2), ("RAND", 0, 3),
   ("REGEXP_LIKE", 2, 3), ("REGEXP_REPLACE", 2, 7), ("REPLACE", 2, 3), ("ROUND", 1, 4),
   ("ROW_NUMBER", 0, 1), ("RPAD", 2, 4), ("RTRIM", 1, 4), ("SHA2", 1, 2), ("SPLIT", 2, 4),
   ("SPLIT_PART", 2, 3), ("STRING_TO_ARRAY", 1, 3), ("STUFF", 4, 4), ("STR_POSITION", 2, 5),
   ("SUBSTRING", 1, 3), ("SUBSTRING_INDEX", 3, 3), ("TIMESTAMPDIFF", 2, 3), ("TO_CHAR", 1, 4),
   ("TO_NUMBER", 1, 6), ("TRANSLATE", 3, 3), ("TRUNC", 1, 3), ("UNHEX", 1, 2), ("WEEK", 1, 2)]

/-- The signature of a function by its printed name, if it is known. -/
def printed? (name : String) : Option Signature :=
  if ofOne.contains name then some ⟨name, 1, some 1⟩
  else if ofTwo.contains name then some ⟨name, 2, some 2⟩
  else if ofMany.contains name then some ⟨name, 1, none⟩
  else (bounded.lookup name).map fun bounds => ⟨name, bounds.1, some bounds.2⟩

/-- The name under which a function is printed. -/
def printedName (name : String) : String :=
  (synonyms.lookup name).getD name

/-- Whether a function takes so many arguments. -/
def accepts (name : String) (count : Nat) : Bool :=
  match printed? (printedName name) with
  | none => true
  | some s => s.least ≤ count && s.most?.all (count ≤ ·)

/-- Whether a function is known. -/
def isKnown (name : String) : Bool :=
  (synonyms.lookup name).isSome || (printed? name).isSome

/-- Functions over all rows of a group. -/
def aggregates : List String :=
  ["ANY_VALUE", "APPROX_DISTINCT", "APPROX_QUANTILE", "ARG_MAX", "ARG_MIN", "ARRAY_AGG", "AVG",
   "CORR", "COUNT", "COUNT_IF", "COVAR_POP", "COVAR_SAMP", "FIRST", "FIRST_VALUE",
   "GROUP_CONCAT", "LAG", "LAST", "LAST_VALUE", "LEAD", "LOGICAL_AND", "LOGICAL_OR", "MAX",
   "MEDIAN", "MIN", "NTH_VALUE", "NTILE", "PERCENTILE_CONT", "PERCENTILE_DISC", "QUANTILE",
   "RANK", "STDDEV", "STDDEV_POP", "STDDEV_SAMP", "SUM", "VARIANCE", "VARIANCE_POP"]

/-- Units of time by their short names. -/
def shortUnits : List (String × String) :=
  [("D", "DAY"), ("H", "HOUR"), ("M", "MINUTE"), ("MS", "MILLISECOND"), ("NS", "NANOSECOND"),
   ("Q", "QUARTER"), ("S", "SECOND"), ("US", "MICROSECOND"), ("W", "WEEK"), ("Y", "YEAR")]

/-- The full name of a unit of time. -/
def unit (name : String) : String :=
  (shortUnits.lookup name).getD name

end QueryBook.Sql.Function
