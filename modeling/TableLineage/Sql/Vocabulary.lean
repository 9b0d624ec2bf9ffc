/-!
# Words of dates and types

A few families of words that several rules ask about.
-/

namespace TableLineage.Sql

def dateFields : List String :=
  ["YEAR", "YEARS", "QUARTER", "MONTH", "MONTHS", "WEEK", "WEEKS", "DAY", "DAYS", "DATE",
    "DATETIME", "HOUR", "HOURS", "MINUTE", "MINUTES", "SECOND", "SECONDS", "CENTURY", "DECADE",
    "DOY", "DOW", "EPOCH", "ISODOW", "ISOYEAR", "ISOWEEK", "JULIAN", "MICROSECOND",
    "MICROSECONDS", "MILLENIUM", "MILLENNIUM", "MILLISECOND", "MILLISECONDS", "NANOSECOND",
    "NANOSECONDS", "TIMEZONE", "TIMEZONE_ABBR", "TIMEZONE_HOUR", "TIMEZONE_MINUTE",
    "TIMEZONE_REGION", "DAYOFWEEK", "DAYOFYEAR", "TIME"]

def plainTypes : List String :=
  ["BOOLEAN", "BOOL", "FLOAT4", "FLOAT32", "FLOAT64", "FLOAT8", "INT16", "INT32", "INT64",
    "INT128", "INT256", "UINT8", "UINT16", "UINT32", "UINT64", "UINT128", "UINT256", "HUGEINT",
    "UBIGINT", "UHUGEINT", "USMALLINT", "UTINYINT", "TINYBLOB", "MEDIUMBLOB", "LONGBLOB", "UUID",
    "DATE", "DATE32", "TIMESTAMP_NTZ", "JSON", "JSONB", "REGCLASS", "TEXT", "TINYTEXT",
    "MEDIUMTEXT", "LONGTEXT", "BYTEA", "TRIGGER"]

def integerTypes : List String := ["TINYINT", "SMALLINT", "MEDIUMINT", "INT", "INTEGER", "BIGINT"]

def shortIntegerTypes : List String := ["INT2", "INT4", "INT8"]

def precisionTypes : List String :=
  ["CLOB", "BINARY", "BLOB", "BYTES", "DATETIME", "TIMESTAMPTZ", "TIMETZ", "STRING", "VARBIT"]

def exactTypes : List String := ["NUMERIC", "BIGNUMERIC", "BIGDECIMAL"]

def unsignableTypes : List String := ["DECIMAL", "DEC", "FLOAT"]

end TableLineage.Sql
