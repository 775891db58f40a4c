/-
This file holds the keywords of SQL. A word without quotes is a keyword if its
upper-case form is the spelling of one. Keywords are not reserved as such: most of
them may still name a column or a table.
-/

namespace SqlImage.Sql

/-- The keywords. -/
inductive Keyword where
  | ABORT | ABS | ABSOLUTE | ACTION | ADD | ADMIN | AGAINST | ALL | ALLOCATE | ALTER | ALWAYS
  | ANALYZE | AND | ANTI | ANY | APPLY | ARCHIVE | ARE | ARRAY | ARRAY_AGG | ARRAY_MAX_CARDINALITY
  | AS | ASC | ASENSITIVE | ASSERT | ASYMMETRIC | AT | ATOMIC | ATTACH | AUTHORIZATION | AUTO
  | AUTOINCREMENT | AUTO_INCREMENT | AVG | AVRO | BACKWARD | BASE64 | BEGIN | BEGIN_FRAME
  | BEGIN_PARTITION | BETWEEN | BIGDECIMAL | BIGINT | BIGNUMERIC | BINARY | BINDING | BLOB
  | BLOOMFILTER | BOOL | BOOLEAN | BOTH | BROWSE | BTREE | BY | BYPASSRLS | BYTEA | BYTES | CACHE
  | CALL | CALLED | CARDINALITY | CASCADE | CASCADED | CASE | CAST | CEIL | CEILING | CENTURY
  | CHAIN | CHANGE | CHANNEL | CHAR | CHARACTER | CHARACTERS | CHARACTER_LENGTH | CHARSET
  | CHAR_LENGTH | CHECK | CLOB | CLONE | CLOSE | CLUSTER | COALESCE | COLLATE | COLLATION | COLLECT
  | COLUMN | COLUMNS | COMMENT | COMMIT | COMMITTED | COMPRESSION | COMPUTE | CONCURRENTLY
  | CONDITION | CONFLICT | CONNECT | CONNECTION | CONSTRAINT | CONTAINS | CONVERT | COPY
  | COPY_OPTIONS | CORR | CORRESPONDING | COUNT | COVAR_POP | COVAR_SAMP | CREATE | CREATEDB
  | CREATEROLE | CREDENTIALS | CROSS | CSV | CUBE | CUME_DIST | CURRENT | CURRENT_CATALOG
  | CURRENT_DATE | CURRENT_DEFAULT_TRANSFORM_GROUP | CURRENT_PATH | CURRENT_ROLE | CURRENT_ROW
  | CURRENT_SCHEMA | CURRENT_TIME | CURRENT_TIMESTAMP | CURRENT_TRANSFORM_GROUP_FOR_TYPE
  | CURRENT_USER | CURSOR | CYCLE | DATA | DATABASE | DATE | DATETIME | DAY | DAYOFWEEK | DAYOFYEAR
  | DEALLOCATE | DEC | DECADE | DECIMAL | DECLARE | DEFAULT | DEFERRABLE | DEFERRED | DELAYED
  | DELETE | DELIMITED | DELIMITER | DELTA | DENSE_RANK | DEREF | DESC | DESCRIBE | DETAIL
  | DETERMINISTIC | DIRECTORY | DISABLE | DISCARD | DISCONNECT | DISTINCT | DISTRIBUTE | DIV | DO
  | DOUBLE | DOW | DOY | DROP | DRY | DUPLICATE | DYNAMIC | EACH | ELEMENT | ELEMENTS | ELSE
  | EMPTY | ENABLE | ENCODING | ENCRYPTION | END | ENDPOINT | END_EXEC | END_FRAME | END_PARTITION
  | ENFORCED | ENGINE | ENUM | EPOCH | EQUALS | ERROR | ESCAPE | EVENT | EVERY | EXCEPT | EXCLUDE
  | EXCLUSIVE | EXEC | EXECUTE | EXISTS | EXP | EXPANSION | EXPLAIN | EXPLICIT | EXPORT | EXTENDED
  | EXTENSION | EXTERNAL | EXTRACT | FAIL | FALSE | FETCH | FIELDS | FILE | FILES | FILE_FORMAT
  | FILTER | FIRST | FIRST_VALUE | FLOAT | FLOAT4 | FLOAT64 | FLOAT8 | FLOOR | FLUSH | FOLLOWING
  | FOR | FORCE | FORCE_NOT_NULL | FORCE_NULL | FORCE_QUOTE | FOREIGN | FORMAT | FORWARD
  | FRAME_ROW | FREE | FREEZE | FROM | FSCK | FULL | FULLTEXT | FUNCTION | FUNCTIONS | FUSION
  | GENERAL | GENERATE | GENERATED | GEOGRAPHY | GET | GLOBAL | GRANT | GRANTED | GRAPHVIZ | GROUP
  | GROUPING | GROUPS | HASH | HAVING | HEADER | HIGH_PRIORITY | HISTORY | HIVEVAR | HOLD | HOSTS
  | HOUR | HOURS | IDENTITY | IF | IGNORE | ILIKE | IMMEDIATE | IMMUTABLE | IN | INCLUDE
  | INCLUDE_NULL_VALUES | INCREMENT | INDEX | INDICATOR | INHERIT | INITIALLY | INNER | INOUT
  | INPUTFORMAT | INSENSITIVE | INSERT | INT | INT2 | INT4 | INT64 | INT8 | INTEGER | INTERSECT
  | INTERSECTION | INTERVAL | INTO | IS | ISODOW | ISOLATION | ISOWEEK | ISOYEAR | JAR | JOIN
  | JSON | JSONB | JSONFILE | JSON_TABLE | JULIAN | KEY | KILL | LAG | LANGUAGE | LARGE | LAST
  | LAST_VALUE | LATERAL | LEAD | LEADING | LEFT | LEVEL | LIKE | LIKE_REGEX | LIMIT | LISTAGG | LN
  | LOCAL | LOCALTIME | LOCALTIMESTAMP | LOCATION | LOCK | LOCKED | LOGIN | LOGS | LOWER
  | LOW_PRIORITY | MACRO | MANAGEDLOCATION | MATCH | MATCHED | MATERIALIZED | MAX | MAXVALUE
  | MEDIUMINT | MEMBER | MERGE | METADATA | METHOD | MICROSECOND | MICROSECONDS | MILLENIUM
  | MILLENNIUM | MILLISECOND | MILLISECONDS | MIN | MINUTE | MINVALUE | MOD | MODE | MODIFIES
  | MODULE | MONTH | MSCK | MULTISET | MUTATION | NAME | NANOSECOND | NANOSECONDS | NATIONAL
  | NATURAL | NCHAR | NCLOB | NEW | NEXT | NO | NOBYPASSRLS | NOCREATEDB | NOCREATEROLE | NOINHERIT
  | NOLOGIN | NONE | NOREPLICATION | NORMALIZE | NOSCAN | NOSUPERUSER | NOT | NOTHING | NOWAIT
  | NO_WRITE_TO_BINLOG | NTH_VALUE | NTILE | NULL | NULLIF | NULLS | NUMERIC | NVARCHAR | OBJECT
  | OCCURRENCES_REGEX | OCTETS | OCTET_LENGTH | OF | OFFSET | OLD | ON | ONLY | OPEN | OPERATOR
  | OPTIMIZE | OPTIMIZER_COSTS | OPTION | OPTIONS | OR | ORC | ORDER | OUT | OUTER | OUTPUTFORMAT
  | OVER | OVERFLOW | OVERLAPS | OVERLAY | OVERWRITE | OWNED | PARAMETER | PARQUET | PARTITION
  | PARTITIONED | PARTITIONS | PASSWORD | PATH | PATTERN | PERCENT | PERCENTILE_CONT
  | PERCENTILE_DISC | PERCENT_RANK | PERIOD | PIVOT | PLACING | PLANS | PORTION | POSITION
  | POSITION_REGEX | POWER | PRAGMA | PRECEDES | PRECEDING | PRECISION | PREPARE | PRESERVE
  | PRIMARY | PRIOR | PRIVILEGES | PROCEDURE | PROGRAM | PURGE | QUALIFY | QUARTER | QUERY | QUOTE
  | RANGE | RANK | RAW | RCFILE | READ | READS | REAL | RECURSIVE | REF | REFERENCES | REFERENCING
  | REGCLASS | REGEXP | REGR_AVGX | REGR_AVGY | REGR_COUNT | REGR_INTERCEPT | REGR_R2 | REGR_SLOPE
  | REGR_SXX | REGR_SXY | REGR_SYY | RELATIVE | RELAY | RELEASE | RENAME | REORG | REPAIR
  | REPEATABLE | REPLACE | REPLICA | REPLICATION | RESET | RESPECT | RESTART | RESTRICT | RESULT
  | RETAIN | RETURN | RETURNING | RETURNS | REVOKE | RIGHT | RLIKE | ROLE | ROLLBACK | ROLLUP
  | ROOT | ROW | ROWID | ROWS | ROW_NUMBER | RULE | RUN | SAFE_CAST | SAVEPOINT | SCHEMA | SCOPE
  | SCROLL | SEARCH | SECOND | SECURITY | SELECT | SEMI | SENSITIVE | SEQUENCE | SEQUENCEFILE
  | SEQUENCES | SERDE | SERIALIZABLE | SESSION | SESSION_USER | SET | SETS | SHARE | SHOW | SIMILAR
  | SKIP | SLOW | SMALLINT | SNAPSHOT | SOME | SORT | SPATIAL | SPECIFIC | SPECIFICTYPE | SQL
  | SQLEXCEPTION | SQLSTATE | SQLWARNING | SQRT | STABLE | STAGE | START | STATIC | STATISTICS
  | STATUS | STDDEV_POP | STDDEV_SAMP | STDIN | STDOUT | STORAGE_INTEGRATION | STORED | STRICT
  | STRING | STRUCT | SUBMULTISET | SUBSTRING | SUBSTRING_REGEX | SUCCEEDS | SUM | SUPER
  | SUPERUSER | SWAP | SYMMETRIC | SYNC | SYSTEM | SYSTEM_TIME | SYSTEM_USER | TABLE | TABLES
  | TABLESAMPLE | TBLPROPERTIES | TEMP | TEMPORARY | TEXT | TEXTFILE | THEN | TIES | TIME
  | TIMESTAMP | TIMESTAMPTZ | TIMETZ | TIMEZONE | TIMEZONE_ABBR | TIMEZONE_HOUR | TIMEZONE_MINUTE
  | TIMEZONE_REGION | TINYINT | TO | TOP | TRAILING | TRANSACTION | TRANSIENT | TRANSLATE
  | TRANSLATE_REGEX | TRANSLATION | TREAT | TRIGGER | TRIM | TRIM_ARRAY | TRUE | TRUNCATE
  | TRY_CAST | TYPE | UESCAPE | UNBOUNDED | UNCACHE | UNCOMMITTED | UNION | UNIQUE | UNKNOWN
  | UNLOCK | UNLOGGED | UNNEST | UNPIVOT | UNSIGNED | UNTIL | UPDATE | UPPER | URL | USAGE | USE
  | USER | USER_RESOURCES | USING | UUID | VACUUM | VALID | VALIDATION_MODE | VALUE | VALUES
  | VALUE_OF | VARBINARY | VARCHAR | VARIABLES | VARYING | VAR_POP | VAR_SAMP | VERBOSE | VERSION
  | VERSIONING | VIEW | VIRTUAL | VOLATILE | WEEK | WHEN | WHENEVER | WHERE | WIDTH_BUCKET | WINDOW
  | WITH | WITHIN | WITHOUT | WITHOUT_ARRAY_WRAPPER | WORK | WRITE | XML | XOR | YEAR | ZONE
  | ZORDER
deriving DecidableEq

namespace Keyword

/-- The keywords with their spelling. -/
def table : List (String × Keyword) := [
  ("ABORT", .ABORT), ("ABS", .ABS), ("ABSOLUTE", .ABSOLUTE), ("ACTION", .ACTION), ("ADD", .ADD),
  ("ADMIN", .ADMIN), ("AGAINST", .AGAINST), ("ALL", .ALL), ("ALLOCATE", .ALLOCATE),
  ("ALTER", .ALTER), ("ALWAYS", .ALWAYS), ("ANALYZE", .ANALYZE), ("AND", .AND), ("ANTI", .ANTI),
  ("ANY", .ANY), ("APPLY", .APPLY), ("ARCHIVE", .ARCHIVE), ("ARE", .ARE), ("ARRAY", .ARRAY),
  ("ARRAY_AGG", .ARRAY_AGG), ("ARRAY_MAX_CARDINALITY", .ARRAY_MAX_CARDINALITY), ("AS", .AS),
  ("ASC", .ASC), ("ASENSITIVE", .ASENSITIVE), ("ASSERT", .ASSERT), ("ASYMMETRIC", .ASYMMETRIC),
  ("AT", .AT), ("ATOMIC", .ATOMIC), ("ATTACH", .ATTACH), ("AUTHORIZATION", .AUTHORIZATION),
  ("AUTO", .AUTO), ("AUTOINCREMENT", .AUTOINCREMENT), ("AUTO_INCREMENT", .AUTO_INCREMENT),
  ("AVG", .AVG), ("AVRO", .AVRO), ("BACKWARD", .BACKWARD), ("BASE64", .BASE64), ("BEGIN", .BEGIN),
  ("BEGIN_FRAME", .BEGIN_FRAME), ("BEGIN_PARTITION", .BEGIN_PARTITION), ("BETWEEN", .BETWEEN),
  ("BIGDECIMAL", .BIGDECIMAL), ("BIGINT", .BIGINT), ("BIGNUMERIC", .BIGNUMERIC),
  ("BINARY", .BINARY), ("BINDING", .BINDING), ("BLOB", .BLOB), ("BLOOMFILTER", .BLOOMFILTER),
  ("BOOL", .BOOL), ("BOOLEAN", .BOOLEAN), ("BOTH", .BOTH), ("BROWSE", .BROWSE), ("BTREE", .BTREE),
  ("BY", .BY), ("BYPASSRLS", .BYPASSRLS), ("BYTEA", .BYTEA), ("BYTES", .BYTES), ("CACHE", .CACHE),
  ("CALL", .CALL), ("CALLED", .CALLED), ("CARDINALITY", .CARDINALITY), ("CASCADE", .CASCADE),
  ("CASCADED", .CASCADED), ("CASE", .CASE), ("CAST", .CAST), ("CEIL", .CEIL),
  ("CEILING", .CEILING), ("CENTURY", .CENTURY), ("CHAIN", .CHAIN), ("CHANGE", .CHANGE),
  ("CHANNEL", .CHANNEL), ("CHAR", .CHAR), ("CHARACTER", .CHARACTER), ("CHARACTERS", .CHARACTERS),
  ("CHARACTER_LENGTH", .CHARACTER_LENGTH), ("CHARSET", .CHARSET), ("CHAR_LENGTH", .CHAR_LENGTH),
  ("CHECK", .CHECK), ("CLOB", .CLOB), ("CLONE", .CLONE), ("CLOSE", .CLOSE), ("CLUSTER", .CLUSTER),
  ("COALESCE", .COALESCE), ("COLLATE", .COLLATE), ("COLLATION", .COLLATION), ("COLLECT", .COLLECT),
  ("COLUMN", .COLUMN), ("COLUMNS", .COLUMNS), ("COMMENT", .COMMENT), ("COMMIT", .COMMIT),
  ("COMMITTED", .COMMITTED), ("COMPRESSION", .COMPRESSION), ("COMPUTE", .COMPUTE),
  ("CONCURRENTLY", .CONCURRENTLY), ("CONDITION", .CONDITION), ("CONFLICT", .CONFLICT),
  ("CONNECT", .CONNECT), ("CONNECTION", .CONNECTION), ("CONSTRAINT", .CONSTRAINT),
  ("CONTAINS", .CONTAINS), ("CONVERT", .CONVERT), ("COPY", .COPY), ("COPY_OPTIONS", .COPY_OPTIONS),
  ("CORR", .CORR), ("CORRESPONDING", .CORRESPONDING), ("COUNT", .COUNT), ("COVAR_POP", .COVAR_POP),
  ("COVAR_SAMP", .COVAR_SAMP), ("CREATE", .CREATE), ("CREATEDB", .CREATEDB),
  ("CREATEROLE", .CREATEROLE), ("CREDENTIALS", .CREDENTIALS), ("CROSS", .CROSS), ("CSV", .CSV),
  ("CUBE", .CUBE), ("CUME_DIST", .CUME_DIST), ("CURRENT", .CURRENT),
  ("CURRENT_CATALOG", .CURRENT_CATALOG), ("CURRENT_DATE", .CURRENT_DATE),
  ("CURRENT_DEFAULT_TRANSFORM_GROUP", .CURRENT_DEFAULT_TRANSFORM_GROUP),
  ("CURRENT_PATH", .CURRENT_PATH), ("CURRENT_ROLE", .CURRENT_ROLE), ("CURRENT_ROW", .CURRENT_ROW),
  ("CURRENT_SCHEMA", .CURRENT_SCHEMA), ("CURRENT_TIME", .CURRENT_TIME),
  ("CURRENT_TIMESTAMP", .CURRENT_TIMESTAMP),
  ("CURRENT_TRANSFORM_GROUP_FOR_TYPE", .CURRENT_TRANSFORM_GROUP_FOR_TYPE),
  ("CURRENT_USER", .CURRENT_USER), ("CURSOR", .CURSOR), ("CYCLE", .CYCLE), ("DATA", .DATA),
  ("DATABASE", .DATABASE), ("DATE", .DATE), ("DATETIME", .DATETIME), ("DAY", .DAY),
  ("DAYOFWEEK", .DAYOFWEEK), ("DAYOFYEAR", .DAYOFYEAR), ("DEALLOCATE", .DEALLOCATE), ("DEC", .DEC),
  ("DECADE", .DECADE), ("DECIMAL", .DECIMAL), ("DECLARE", .DECLARE), ("DEFAULT", .DEFAULT),
  ("DEFERRABLE", .DEFERRABLE), ("DEFERRED", .DEFERRED), ("DELAYED", .DELAYED), ("DELETE", .DELETE),
  ("DELIMITED", .DELIMITED), ("DELIMITER", .DELIMITER), ("DELTA", .DELTA),
  ("DENSE_RANK", .DENSE_RANK), ("DEREF", .DEREF), ("DESC", .DESC), ("DESCRIBE", .DESCRIBE),
  ("DETAIL", .DETAIL), ("DETERMINISTIC", .DETERMINISTIC), ("DIRECTORY", .DIRECTORY),
  ("DISABLE", .DISABLE), ("DISCARD", .DISCARD), ("DISCONNECT", .DISCONNECT),
  ("DISTINCT", .DISTINCT), ("DISTRIBUTE", .DISTRIBUTE), ("DIV", .DIV), ("DO", .DO),
  ("DOUBLE", .DOUBLE), ("DOW", .DOW), ("DOY", .DOY), ("DROP", .DROP), ("DRY", .DRY),
  ("DUPLICATE", .DUPLICATE), ("DYNAMIC", .DYNAMIC), ("EACH", .EACH), ("ELEMENT", .ELEMENT),
  ("ELEMENTS", .ELEMENTS), ("ELSE", .ELSE), ("EMPTY", .EMPTY), ("ENABLE", .ENABLE),
  ("ENCODING", .ENCODING), ("ENCRYPTION", .ENCRYPTION), ("END", .END), ("ENDPOINT", .ENDPOINT),
  ("END-EXEC", .END_EXEC), ("END_FRAME", .END_FRAME), ("END_PARTITION", .END_PARTITION),
  ("ENFORCED", .ENFORCED), ("ENGINE", .ENGINE), ("ENUM", .ENUM), ("EPOCH", .EPOCH),
  ("EQUALS", .EQUALS), ("ERROR", .ERROR), ("ESCAPE", .ESCAPE), ("EVENT", .EVENT),
  ("EVERY", .EVERY), ("EXCEPT", .EXCEPT), ("EXCLUDE", .EXCLUDE), ("EXCLUSIVE", .EXCLUSIVE),
  ("EXEC", .EXEC), ("EXECUTE", .EXECUTE), ("EXISTS", .EXISTS), ("EXP", .EXP),
  ("EXPANSION", .EXPANSION), ("EXPLAIN", .EXPLAIN), ("EXPLICIT", .EXPLICIT), ("EXPORT", .EXPORT),
  ("EXTENDED", .EXTENDED), ("EXTENSION", .EXTENSION), ("EXTERNAL", .EXTERNAL),
  ("EXTRACT", .EXTRACT), ("FAIL", .FAIL), ("FALSE", .FALSE), ("FETCH", .FETCH),
  ("FIELDS", .FIELDS), ("FILE", .FILE), ("FILES", .FILES), ("FILE_FORMAT", .FILE_FORMAT),
  ("FILTER", .FILTER), ("FIRST", .FIRST), ("FIRST_VALUE", .FIRST_VALUE), ("FLOAT", .FLOAT),
  ("FLOAT4", .FLOAT4), ("FLOAT64", .FLOAT64), ("FLOAT8", .FLOAT8), ("FLOOR", .FLOOR),
  ("FLUSH", .FLUSH), ("FOLLOWING", .FOLLOWING), ("FOR", .FOR), ("FORCE", .FORCE),
  ("FORCE_NOT_NULL", .FORCE_NOT_NULL), ("FORCE_NULL", .FORCE_NULL), ("FORCE_QUOTE", .FORCE_QUOTE),
  ("FOREIGN", .FOREIGN), ("FORMAT", .FORMAT), ("FORWARD", .FORWARD), ("FRAME_ROW", .FRAME_ROW),
  ("FREE", .FREE), ("FREEZE", .FREEZE), ("FROM", .FROM), ("FSCK", .FSCK), ("FULL", .FULL),
  ("FULLTEXT", .FULLTEXT), ("FUNCTION", .FUNCTION), ("FUNCTIONS", .FUNCTIONS), ("FUSION", .FUSION),
  ("GENERAL", .GENERAL), ("GENERATE", .GENERATE), ("GENERATED", .GENERATED),
  ("GEOGRAPHY", .GEOGRAPHY), ("GET", .GET), ("GLOBAL", .GLOBAL), ("GRANT", .GRANT),
  ("GRANTED", .GRANTED), ("GRAPHVIZ", .GRAPHVIZ), ("GROUP", .GROUP), ("GROUPING", .GROUPING),
  ("GROUPS", .GROUPS), ("HASH", .HASH), ("HAVING", .HAVING), ("HEADER", .HEADER),
  ("HIGH_PRIORITY", .HIGH_PRIORITY), ("HISTORY", .HISTORY), ("HIVEVAR", .HIVEVAR), ("HOLD", .HOLD),
  ("HOSTS", .HOSTS), ("HOUR", .HOUR), ("HOURS", .HOURS), ("IDENTITY", .IDENTITY), ("IF", .IF),
  ("IGNORE", .IGNORE), ("ILIKE", .ILIKE), ("IMMEDIATE", .IMMEDIATE), ("IMMUTABLE", .IMMUTABLE),
  ("IN", .IN), ("INCLUDE", .INCLUDE), ("INCLUDE_NULL_VALUES", .INCLUDE_NULL_VALUES),
  ("INCREMENT", .INCREMENT), ("INDEX", .INDEX), ("INDICATOR", .INDICATOR), ("INHERIT", .INHERIT),
  ("INITIALLY", .INITIALLY), ("INNER", .INNER), ("INOUT", .INOUT), ("INPUTFORMAT", .INPUTFORMAT),
  ("INSENSITIVE", .INSENSITIVE), ("INSERT", .INSERT), ("INT", .INT), ("INT2", .INT2),
  ("INT4", .INT4), ("INT64", .INT64), ("INT8", .INT8), ("INTEGER", .INTEGER),
  ("INTERSECT", .INTERSECT), ("INTERSECTION", .INTERSECTION), ("INTERVAL", .INTERVAL),
  ("INTO", .INTO), ("IS", .IS), ("ISODOW", .ISODOW), ("ISOLATION", .ISOLATION),
  ("ISOWEEK", .ISOWEEK), ("ISOYEAR", .ISOYEAR), ("JAR", .JAR), ("JOIN", .JOIN), ("JSON", .JSON),
  ("JSONB", .JSONB), ("JSONFILE", .JSONFILE), ("JSON_TABLE", .JSON_TABLE), ("JULIAN", .JULIAN),
  ("KEY", .KEY), ("KILL", .KILL), ("LAG", .LAG), ("LANGUAGE", .LANGUAGE), ("LARGE", .LARGE),
  ("LAST", .LAST), ("LAST_VALUE", .LAST_VALUE), ("LATERAL", .LATERAL), ("LEAD", .LEAD),
  ("LEADING", .LEADING), ("LEFT", .LEFT), ("LEVEL", .LEVEL), ("LIKE", .LIKE),
  ("LIKE_REGEX", .LIKE_REGEX), ("LIMIT", .LIMIT), ("LISTAGG", .LISTAGG), ("LN", .LN),
  ("LOCAL", .LOCAL), ("LOCALTIME", .LOCALTIME), ("LOCALTIMESTAMP", .LOCALTIMESTAMP),
  ("LOCATION", .LOCATION), ("LOCK", .LOCK), ("LOCKED", .LOCKED), ("LOGIN", .LOGIN),
  ("LOGS", .LOGS), ("LOWER", .LOWER), ("LOW_PRIORITY", .LOW_PRIORITY), ("MACRO", .MACRO),
  ("MANAGEDLOCATION", .MANAGEDLOCATION), ("MATCH", .MATCH), ("MATCHED", .MATCHED),
  ("MATERIALIZED", .MATERIALIZED), ("MAX", .MAX), ("MAXVALUE", .MAXVALUE),
  ("MEDIUMINT", .MEDIUMINT), ("MEMBER", .MEMBER), ("MERGE", .MERGE), ("METADATA", .METADATA),
  ("METHOD", .METHOD), ("MICROSECOND", .MICROSECOND), ("MICROSECONDS", .MICROSECONDS),
  ("MILLENIUM", .MILLENIUM), ("MILLENNIUM", .MILLENNIUM), ("MILLISECOND", .MILLISECOND),
  ("MILLISECONDS", .MILLISECONDS), ("MIN", .MIN), ("MINUTE", .MINUTE), ("MINVALUE", .MINVALUE),
  ("MOD", .MOD), ("MODE", .MODE), ("MODIFIES", .MODIFIES), ("MODULE", .MODULE), ("MONTH", .MONTH),
  ("MSCK", .MSCK), ("MULTISET", .MULTISET), ("MUTATION", .MUTATION), ("NAME", .NAME),
  ("NANOSECOND", .NANOSECOND), ("NANOSECONDS", .NANOSECONDS), ("NATIONAL", .NATIONAL),
  ("NATURAL", .NATURAL), ("NCHAR", .NCHAR), ("NCLOB", .NCLOB), ("NEW", .NEW), ("NEXT", .NEXT),
  ("NO", .NO), ("NOBYPASSRLS", .NOBYPASSRLS), ("NOCREATEDB", .NOCREATEDB),
  ("NOCREATEROLE", .NOCREATEROLE), ("NOINHERIT", .NOINHERIT), ("NOLOGIN", .NOLOGIN),
  ("NONE", .NONE), ("NOREPLICATION", .NOREPLICATION), ("NORMALIZE", .NORMALIZE),
  ("NOSCAN", .NOSCAN), ("NOSUPERUSER", .NOSUPERUSER), ("NOT", .NOT), ("NOTHING", .NOTHING),
  ("NOWAIT", .NOWAIT), ("NO_WRITE_TO_BINLOG", .NO_WRITE_TO_BINLOG), ("NTH_VALUE", .NTH_VALUE),
  ("NTILE", .NTILE), ("NULL", .NULL), ("NULLIF", .NULLIF), ("NULLS", .NULLS),
  ("NUMERIC", .NUMERIC), ("NVARCHAR", .NVARCHAR), ("OBJECT", .OBJECT),
  ("OCCURRENCES_REGEX", .OCCURRENCES_REGEX), ("OCTETS", .OCTETS), ("OCTET_LENGTH", .OCTET_LENGTH),
  ("OF", .OF), ("OFFSET", .OFFSET), ("OLD", .OLD), ("ON", .ON), ("ONLY", .ONLY), ("OPEN", .OPEN),
  ("OPERATOR", .OPERATOR), ("OPTIMIZE", .OPTIMIZE), ("OPTIMIZER_COSTS", .OPTIMIZER_COSTS),
  ("OPTION", .OPTION), ("OPTIONS", .OPTIONS), ("OR", .OR), ("ORC", .ORC), ("ORDER", .ORDER),
  ("OUT", .OUT), ("OUTER", .OUTER), ("OUTPUTFORMAT", .OUTPUTFORMAT), ("OVER", .OVER),
  ("OVERFLOW", .OVERFLOW), ("OVERLAPS", .OVERLAPS), ("OVERLAY", .OVERLAY),
  ("OVERWRITE", .OVERWRITE), ("OWNED", .OWNED), ("PARAMETER", .PARAMETER), ("PARQUET", .PARQUET),
  ("PARTITION", .PARTITION), ("PARTITIONED", .PARTITIONED), ("PARTITIONS", .PARTITIONS),
  ("PASSWORD", .PASSWORD), ("PATH", .PATH), ("PATTERN", .PATTERN), ("PERCENT", .PERCENT),
  ("PERCENTILE_CONT", .PERCENTILE_CONT), ("PERCENTILE_DISC", .PERCENTILE_DISC),
  ("PERCENT_RANK", .PERCENT_RANK), ("PERIOD", .PERIOD), ("PIVOT", .PIVOT), ("PLACING", .PLACING),
  ("PLANS", .PLANS), ("PORTION", .PORTION), ("POSITION", .POSITION),
  ("POSITION_REGEX", .POSITION_REGEX), ("POWER", .POWER), ("PRAGMA", .PRAGMA),
  ("PRECEDES", .PRECEDES), ("PRECEDING", .PRECEDING), ("PRECISION", .PRECISION),
  ("PREPARE", .PREPARE), ("PRESERVE", .PRESERVE), ("PRIMARY", .PRIMARY), ("PRIOR", .PRIOR),
  ("PRIVILEGES", .PRIVILEGES), ("PROCEDURE", .PROCEDURE), ("PROGRAM", .PROGRAM), ("PURGE", .PURGE),
  ("QUALIFY", .QUALIFY), ("QUARTER", .QUARTER), ("QUERY", .QUERY), ("QUOTE", .QUOTE),
  ("RANGE", .RANGE), ("RANK", .RANK), ("RAW", .RAW), ("RCFILE", .RCFILE), ("READ", .READ),
  ("READS", .READS), ("REAL", .REAL), ("RECURSIVE", .RECURSIVE), ("REF", .REF),
  ("REFERENCES", .REFERENCES), ("REFERENCING", .REFERENCING), ("REGCLASS", .REGCLASS),
  ("REGEXP", .REGEXP), ("REGR_AVGX", .REGR_AVGX), ("REGR_AVGY", .REGR_AVGY),
  ("REGR_COUNT", .REGR_COUNT), ("REGR_INTERCEPT", .REGR_INTERCEPT), ("REGR_R2", .REGR_R2),
  ("REGR_SLOPE", .REGR_SLOPE), ("REGR_SXX", .REGR_SXX), ("REGR_SXY", .REGR_SXY),
  ("REGR_SYY", .REGR_SYY), ("RELATIVE", .RELATIVE), ("RELAY", .RELAY), ("RELEASE", .RELEASE),
  ("RENAME", .RENAME), ("REORG", .REORG), ("REPAIR", .REPAIR), ("REPEATABLE", .REPEATABLE),
  ("REPLACE", .REPLACE), ("REPLICA", .REPLICA), ("REPLICATION", .REPLICATION), ("RESET", .RESET),
  ("RESPECT", .RESPECT), ("RESTART", .RESTART), ("RESTRICT", .RESTRICT), ("RESULT", .RESULT),
  ("RETAIN", .RETAIN), ("RETURN", .RETURN), ("RETURNING", .RETURNING), ("RETURNS", .RETURNS),
  ("REVOKE", .REVOKE), ("RIGHT", .RIGHT), ("RLIKE", .RLIKE), ("ROLE", .ROLE),
  ("ROLLBACK", .ROLLBACK), ("ROLLUP", .ROLLUP), ("ROOT", .ROOT), ("ROW", .ROW), ("ROWID", .ROWID),
  ("ROWS", .ROWS), ("ROW_NUMBER", .ROW_NUMBER), ("RULE", .RULE), ("RUN", .RUN),
  ("SAFE_CAST", .SAFE_CAST), ("SAVEPOINT", .SAVEPOINT), ("SCHEMA", .SCHEMA), ("SCOPE", .SCOPE),
  ("SCROLL", .SCROLL), ("SEARCH", .SEARCH), ("SECOND", .SECOND), ("SECURITY", .SECURITY),
  ("SELECT", .SELECT), ("SEMI", .SEMI), ("SENSITIVE", .SENSITIVE), ("SEQUENCE", .SEQUENCE),
  ("SEQUENCEFILE", .SEQUENCEFILE), ("SEQUENCES", .SEQUENCES), ("SERDE", .SERDE),
  ("SERIALIZABLE", .SERIALIZABLE), ("SESSION", .SESSION), ("SESSION_USER", .SESSION_USER),
  ("SET", .SET), ("SETS", .SETS), ("SHARE", .SHARE), ("SHOW", .SHOW), ("SIMILAR", .SIMILAR),
  ("SKIP", .SKIP), ("SLOW", .SLOW), ("SMALLINT", .SMALLINT), ("SNAPSHOT", .SNAPSHOT),
  ("SOME", .SOME), ("SORT", .SORT), ("SPATIAL", .SPATIAL), ("SPECIFIC", .SPECIFIC),
  ("SPECIFICTYPE", .SPECIFICTYPE), ("SQL", .SQL), ("SQLEXCEPTION", .SQLEXCEPTION),
  ("SQLSTATE", .SQLSTATE), ("SQLWARNING", .SQLWARNING), ("SQRT", .SQRT), ("STABLE", .STABLE),
  ("STAGE", .STAGE), ("START", .START), ("STATIC", .STATIC), ("STATISTICS", .STATISTICS),
  ("STATUS", .STATUS), ("STDDEV_POP", .STDDEV_POP), ("STDDEV_SAMP", .STDDEV_SAMP),
  ("STDIN", .STDIN), ("STDOUT", .STDOUT), ("STORAGE_INTEGRATION", .STORAGE_INTEGRATION),
  ("STORED", .STORED), ("STRICT", .STRICT), ("STRING", .STRING), ("STRUCT", .STRUCT),
  ("SUBMULTISET", .SUBMULTISET), ("SUBSTRING", .SUBSTRING), ("SUBSTRING_REGEX", .SUBSTRING_REGEX),
  ("SUCCEEDS", .SUCCEEDS), ("SUM", .SUM), ("SUPER", .SUPER), ("SUPERUSER", .SUPERUSER),
  ("SWAP", .SWAP), ("SYMMETRIC", .SYMMETRIC), ("SYNC", .SYNC), ("SYSTEM", .SYSTEM),
  ("SYSTEM_TIME", .SYSTEM_TIME), ("SYSTEM_USER", .SYSTEM_USER), ("TABLE", .TABLE),
  ("TABLES", .TABLES), ("TABLESAMPLE", .TABLESAMPLE), ("TBLPROPERTIES", .TBLPROPERTIES),
  ("TEMP", .TEMP), ("TEMPORARY", .TEMPORARY), ("TEXT", .TEXT), ("TEXTFILE", .TEXTFILE),
  ("THEN", .THEN), ("TIES", .TIES), ("TIME", .TIME), ("TIMESTAMP", .TIMESTAMP),
  ("TIMESTAMPTZ", .TIMESTAMPTZ), ("TIMETZ", .TIMETZ), ("TIMEZONE", .TIMEZONE),
  ("TIMEZONE_ABBR", .TIMEZONE_ABBR), ("TIMEZONE_HOUR", .TIMEZONE_HOUR),
  ("TIMEZONE_MINUTE", .TIMEZONE_MINUTE), ("TIMEZONE_REGION", .TIMEZONE_REGION),
  ("TINYINT", .TINYINT), ("TO", .TO), ("TOP", .TOP), ("TRAILING", .TRAILING),
  ("TRANSACTION", .TRANSACTION), ("TRANSIENT", .TRANSIENT), ("TRANSLATE", .TRANSLATE),
  ("TRANSLATE_REGEX", .TRANSLATE_REGEX), ("TRANSLATION", .TRANSLATION), ("TREAT", .TREAT),
  ("TRIGGER", .TRIGGER), ("TRIM", .TRIM), ("TRIM_ARRAY", .TRIM_ARRAY), ("TRUE", .TRUE),
  ("TRUNCATE", .TRUNCATE), ("TRY_CAST", .TRY_CAST), ("TYPE", .TYPE), ("UESCAPE", .UESCAPE),
  ("UNBOUNDED", .UNBOUNDED), ("UNCACHE", .UNCACHE), ("UNCOMMITTED", .UNCOMMITTED),
  ("UNION", .UNION), ("UNIQUE", .UNIQUE), ("UNKNOWN", .UNKNOWN), ("UNLOCK", .UNLOCK),
  ("UNLOGGED", .UNLOGGED), ("UNNEST", .UNNEST), ("UNPIVOT", .UNPIVOT), ("UNSIGNED", .UNSIGNED),
  ("UNTIL", .UNTIL), ("UPDATE", .UPDATE), ("UPPER", .UPPER), ("URL", .URL), ("USAGE", .USAGE),
  ("USE", .USE), ("USER", .USER), ("USER_RESOURCES", .USER_RESOURCES), ("USING", .USING),
  ("UUID", .UUID), ("VACUUM", .VACUUM), ("VALID", .VALID), ("VALIDATION_MODE", .VALIDATION_MODE),
  ("VALUE", .VALUE), ("VALUES", .VALUES), ("VALUE_OF", .VALUE_OF), ("VARBINARY", .VARBINARY),
  ("VARCHAR", .VARCHAR), ("VARIABLES", .VARIABLES), ("VARYING", .VARYING), ("VAR_POP", .VAR_POP),
  ("VAR_SAMP", .VAR_SAMP), ("VERBOSE", .VERBOSE), ("VERSION", .VERSION),
  ("VERSIONING", .VERSIONING), ("VIEW", .VIEW), ("VIRTUAL", .VIRTUAL), ("VOLATILE", .VOLATILE),
  ("WEEK", .WEEK), ("WHEN", .WHEN), ("WHENEVER", .WHENEVER), ("WHERE", .WHERE),
  ("WIDTH_BUCKET", .WIDTH_BUCKET), ("WINDOW", .WINDOW), ("WITH", .WITH), ("WITHIN", .WITHIN),
  ("WITHOUT", .WITHOUT), ("WITHOUT_ARRAY_WRAPPER", .WITHOUT_ARRAY_WRAPPER), ("WORK", .WORK),
  ("WRITE", .WRITE), ("XML", .XML), ("XOR", .XOR), ("YEAR", .YEAR), ("ZONE", .ZONE),
  ("ZORDER", .ZORDER)]

/-- How a keyword is spelled. -/
def spelling (keyword : Keyword) : String :=
  ((table.find? (·.2 = keyword)).map (·.1)).getD ""

/-- The upper-case form of a character, as far as it is made of ASCII letters. No other forms
matter here, because every keyword is spelled in ASCII. -/
def upperCase (character : Char) : List Char :=
  if character.isLower then [character.toUpper]
  else if character.toNat < 0x80 then [character]
  else
    match character.toNat with
    | 0xDF => ['S', 'S']
    | 0x131 => ['I']
    | 0x17F => ['S']
    | 0xFB00 => ['F', 'F']
    | 0xFB01 => ['F', 'I']
    | 0xFB02 => ['F', 'L']
    | 0xFB03 => ['F', 'F', 'I']
    | 0xFB04 => ['F', 'F', 'L']
    | 0xFB05 => ['S', 'T']
    | 0xFB06 => ['S', 'T']
    | _ => [character]

/-- The keyword that a word without quotes is, if it is one. -/
def ofWord? (word : List Char) : Option Keyword :=
  table.lookup (String.ofList (word.flatMap upperCase))

end Keyword

end SqlImage.Sql
