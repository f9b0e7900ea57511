import QueryBook.Text.Upper

/-!
# Keywords

Each keyword has a kind, under which the grammar knows it; some kinds have several keywords.
Most keywords can be names nevertheless: the lists here say which kinds can be names, aliases
of tables, functions and types. All words are in capitals.
-/

namespace QueryBook.Sql.Keyword

/-- Types whose kind is their keyword. -/
def typeWords : List String :=
  ["ARRAY", "BIGINT", "BINARY", "BIT", "BOOLEAN", "BPCHAR", "CHAR", "DATE", "DATEMULTIRANGE",
   "DATERANGE", "DATETIME", "DECIMAL", "DECIMAL32", "DECIMAL64", "DECIMAL128", "DECIMAL256",
   "DOUBLE", "ENUM", "FLOAT", "GEOGRAPHY", "GEOMETRY", "INET", "INT", "INT128", "INT256",
   "INT4MULTIRANGE", "INT4RANGE", "INT8MULTIRANGE", "INT8RANGE", "INTERVAL", "JSON", "JSONB",
   "LIST", "LONGBLOB", "LONGTEXT", "MAP", "MEDIUMBLOB", "MEDIUMINT", "MEDIUMTEXT", "NCHAR",
   "NULL", "NULLABLE", "NUMMULTIRANGE", "NUMRANGE", "NVARCHAR", "OBJECT", "RANGE", "SMALLINT",
   "STRUCT", "TEXT", "TIME", "TIMESTAMP", "TIMESTAMPLTZ", "TIMESTAMPNTZ", "TIMESTAMPTZ",
   "TIMETZ", "TINYBLOB", "TINYINT", "TINYTEXT", "TSMULTIRANGE", "TSRANGE", "TSTZMULTIRANGE",
   "TSTZRANGE", "UINT", "UINT128", "UINT256", "UNION", "UNKNOWN", "USER-DEFINED", "UUID",
   "VARBINARY", "VARCHAR", "VARIANT", "VECTOR"]

/-- Types with another keyword, which is also the beginning of their printed name. -/
def typeSynonyms : List (String × String) :=
  [("BIGDECIMAL", "BIGDECIMAL"), ("BIGNUMERIC", "BIGDECIMAL"), ("BLOB", "VARBINARY"),
   ("BOOL", "BOOLEAN"), ("BYTE", "TINYINT"), ("BYTEA", "VARBINARY"), ("CHARACTER", "CHAR"),
   ("CLOB", "TEXT"), ("DEC", "DECIMAL"), ("FIXED", "DECIMAL"), ("FLOAT4", "FLOAT"),
   ("FLOAT8", "DOUBLE"), ("HUGEINT", "INT128"), ("INT1", "TINYINT"), ("INT16", "SMALLINT"),
   ("INT2", "SMALLINT"), ("INT32", "INT"), ("INT4", "INT"), ("INT64", "BIGINT"),
   ("INT8", "TINYINT"), ("INTEGER", "INT"), ("LONG", "BIGINT"), ("LONGVARCHAR", "TEXT"),
   ("NUMBER", "DECIMAL"), ("NUMERIC", "DECIMAL"), ("NVARCHAR2", "NVARCHAR"), ("REAL", "FLOAT"),
   ("SHORT", "SMALLINT"), ("STR", "TEXT"), ("STRING", "TEXT"), ("TIMESTAMP_LTZ", "TIMESTAMPLTZ"),
   ("TIMESTAMP_NTZ", "TIMESTAMPNTZ"), ("UHUGEINT", "UINT128"), ("VARCHAR2", "VARCHAR")]

/-- Further keywords that can be names. -/
def nameWords : List String :=
  ["ALL", "ANALYZE", "ANTI", "ANY", "APPLY", "ASC", "ASOF", "AUTO_INCREMENT", "BEGIN", "CACHE",
   "CASE", "COLLATE", "COLUMN", "COMMAND", "COMMENT", "COMMIT", "CONSTRAINT", "COPY", "CUBE",
   "CURRENT_DATE", "CURRENT_SCHEMA", "CURRENT_TIME", "CURRENT_TIMESTAMP", "CURRENT_USER",
   "DATABASE", "DEFAULT", "DELETE", "DESC", "DESCRIBE", "DIV", "END", "ESCAPE", "EXECUTE",
   "EXISTS", "FALSE", "FILTER", "FIRST", "FOREIGN KEY", "FORMAT", "FULL", "FUNCTION", "INDEX",
   "IS", "ISNULL", "KEEP", "KILL", "LEFT", "LIMIT", "LOAD", "LOCALTIME", "LOCALTIMESTAMP",
   "LOCK", "MERGE", "NAMESPACE", "NATURAL", "NEXT", "OFFSET", "OPERATOR", "ORDINALITY", "OVER",
   "OVERLAPS", "OVERWRITE", "PARTITION", "PERCENT", "PIVOT", "PRAGMA", "PROCEDURE", "RECURSIVE",
   "REFERENCES", "RENAME", "REPLACE", "RIGHT", "ROLLUP", "ROW", "ROWS", "SCHEMA", "SEMI",
   "SEQUENCE", "SET", "SETTINGS", "SHOW", "SOME", "TABLE", "TEMPORARY", "TRUE", "TRUNCATE",
   "UNIQUE", "UNNEST", "UNPIVOT", "UPDATE", "USE", "VIEW", "VOLATILE", "WINDOW"]

/-- Keywords that cannot be names. -/
def reservedWords : List String :=
  ["ALTER", "AND", "AS", "BETWEEN", "CREATE", "CROSS", "DISTINCT", "DROP", "ELSE",
   "EXCEPT", "FETCH", "FOR", "FROM", "GLOB", "GRANT", "HAVING", "ILIKE", "IN", "INNER",
   "INSERT", "INTERSECT", "INTO", "JOIN", "LATERAL", "LIKE", "NOT", "NOTNULL", "ON", "OR",
   "OUTER", "QUALIFY", "RETURNING", "REVOKE", "RLIKE", "ROLLBACK", "SELECT", "STRAIGHT_JOIN",
   "TABLESAMPLE", "THEN", "UNCACHE", "USING", "VALUES", "WHEN", "WHERE",
   "WITH", "XOR"]

/-- Other keywords of these kinds. -/
def synonyms : List (String × String) :=
  [("AUTOINCREMENT", "AUTO_INCREMENT"), ("CALL", "COMMAND"), ("EXPLAIN", "COMMAND"),
   ("OPTIMIZE", "COMMAND"), ("PARTITIONED_BY", "PARTITION BY"), ("PREPARE", "COMMAND"),
   ("REGEXP", "RLIKE"), ("TEMP", "TEMPORARY"), ("VACUUM", "COMMAND")]

/-- Keywords of two words. -/
def phrases : List ((String × String) × String) :=
  [(("CHAR", "VARYING"), "VARCHAR"), (("CHARACTER", "SET"), "CHARACTER SET"),
   (("CHARACTER", "VARYING"), "VARCHAR"), (("CLUSTER", "BY"), "CLUSTER BY"),
   (("CONNECT", "BY"), "CONNECT BY"), (("DISTRIBUTE", "BY"), "DISTRIBUTE BY"),
   (("DOUBLE", "PRECISION"), "DOUBLE"), (("FOR", "TIMESTAMP"), "FOR TIMESTAMP"),
   (("FOR", "VERSION"), "FOR VERSION"), (("FOREIGN", "KEY"), "FOREIGN KEY"),
   (("GROUP", "BY"), "GROUP BY"), (("GROUPING", "SETS"), "GROUPING SETS"),
   (("ORDER", "BY"), "ORDER BY"), (("PARTITION", "BY"), "PARTITION BY"),
   (("PARTITIONED", "BY"), "PARTITION BY"), (("PRIMARY", "KEY"), "PRIMARY KEY"),
   (("SIMILAR", "TO"), "SIMILAR TO"), (("SORT", "BY"), "SORT BY"),
   (("START", "WITH"), "START WITH")]

/-- The kind of a word in capitals, if it is a keyword. -/
def kind? (word : String) : Option String :=
  if typeWords.contains word || nameWords.contains word || reservedWords.contains word then
    some word
  else
    match typeSynonyms.lookup word with
    | some kind => some kind
    | none => synonyms.lookup word

/-- Whether keywords of the kind are types. -/
def isType (kind : String) : Bool :=
  typeWords.contains kind || kind == "BIGDECIMAL"

/-- Whether keywords of the kind can be names. -/
def isName (kind : String) : Bool :=
  nameWords.contains kind || isType kind && kind != "UNION"

/-- Keywords that are names, but no aliases of tables by themselves. -/
def noTableAlias : List String :=
  ["ANTI", "ASOF", "FULL", "LEFT", "LOCK", "NATURAL", "RIGHT", "SEMI", "WINDOW"]

/-- Keywords besides types that can be functions. -/
def functionWords : List String :=
  ["ALL", "ANY", "COLLATE", "COMMAND", "CURRENT_DATE", "CURRENT_SCHEMA", "CURRENT_TIME",
   "CURRENT_TIMESTAMP", "CURRENT_USER", "EXISTS", "FILTER", "FIRST", "FORMAT", "GLOB", "ILIKE",
   "INDEX", "INSERT", "ISNULL", "LEFT", "LIKE", "LOCALTIME", "LOCALTIMESTAMP", "MERGE", "NEXT",
   "OFFSET", "PRIMARY KEY", "REPLACE", "RIGHT", "RLIKE", "ROW", "SEQUENCE", "SOME", "TABLE",
   "TRUNCATE", "UNNEST", "WINDOW", "XOR"]

/-- Whether keywords of the kind can be functions. -/
def isFunction (kind : String) : Bool :=
  functionWords.contains kind || isType kind

/-- Types that hold others. -/
def nestedTypes : List String :=
  ["ARRAY", "LIST", "MAP", "NULLABLE", "OBJECT", "RANGE", "STRUCT", "UNION"]

/-- Types that are printed under another name than their kind. -/
def printedTypes : List (String × String) :=
  [("LONGBLOB", "BLOB"), ("LONGTEXT", "TEXT"), ("MEDIUMBLOB", "BLOB"), ("MEDIUMTEXT", "TEXT"),
   ("NCHAR", "CHAR"), ("NVARCHAR", "VARCHAR"), ("TINYBLOB", "BLOB"), ("TINYTEXT", "TEXT")]

/-- The printed name of a type. -/
def typeName (kind : String) : String :=
  (printedTypes.lookup kind).getD kind

/-- Types of points in time, which may be said to have a time zone. -/
def timeTypes : List String :=
  ["TIME", "TIMESTAMP", "TIMESTAMPLTZ", "TIMESTAMPNTZ", "TIMESTAMPTZ", "TIMETZ"]

/-- Keywords that other statements begin with. -/
def statements : List String :=
  ["ALTER", "ANALYZE", "BEGIN", "CACHE", "COMMAND", "COMMENT", "COMMIT", "COPY", "CREATE",
   "DELETE", "DESC", "DESCRIBE", "DROP", "EXECUTE", "FETCH", "GRANT", "INSERT", "KILL", "LOAD",
   "MERGE", "PIVOT", "PRAGMA", "RENAME", "REVOKE", "ROLLBACK", "SET", "SHOW", "TRUNCATE",
   "UNCACHE", "UNPIVOT", "UPDATE", "USE"]

end QueryBook.Sql.Keyword
