/-!
# Keywords

The keywords of SQL, by what they do to the lines of a statement that is laid out.
A keyword of more than one word is written with one blank between its words. The
names of columns and tables are not told from keywords: a column that is called
like a keyword is laid out like it.
-/
namespace DomainSql.Sql

/-- What a keyword does to the lines of a statement. -/
inductive KeywordRole where
  /-- It opens a clause and stands on a line of its own, one level out. -/
  | clause
  /-- It stands between two selections on a line of its own. -/
  | between
  /-- It starts a new line at the current level. -/
  | joining
  /-- It stays on its line like any other word. -/
  | plain
deriving DecidableEq, Repr

namespace KeywordRole

/-- The keywords that open a clause. -/
def clauseKeywords : List String :=
  ["ADD", "AFTER", "ALTER COLUMN", "ALTER TABLE", "DELETE FROM", "EXCEPT", "FETCH FIRST", "FROM",
   "GO", "GROUP BY", "HAVING", "INSERT", "INSERT INTO", "LIMIT", "MODIFY", "ORDER BY",
   "RETURNING", "SELECT", "SET", "SET CURRENT SCHEMA", "SET SCHEMA", "UPDATE", "VALUES", "WHERE"]

/-- The keywords that stand between selections. An `ALL` behind one of them is a word of
its own. -/
def betweenKeywords : List String := ["BEGIN", "DECLARE", "INTERSECT", "MINUS", "UNION"]

/-- The keywords that start a line inside a clause. -/
def joiningKeywords : List String :=
  ["AND", "CROSS APPLY", "CROSS JOIN", "ELSE", "INNER JOIN", "JOIN", "LEFT JOIN",
   "LEFT OUTER JOIN", "OR", "OUTER APPLY", "OUTER JOIN", "RIGHT JOIN", "RIGHT OUTER JOIN",
   "WHEN", "XOR"]

/-- The keywords without a line of their own. -/
def plainKeywords : List String :=
  ["ACCESSIBLE", "ACTION", "AGAINST", "AGGREGATE", "ALGORITHM", "ALL", "ALTER", "ANALYSE",
   "ANALYZE", "AS", "ASC", "AUTOCOMMIT", "AUTO_INCREMENT", "BACKUP", "BETWEEN", "BINLOG", "BOTH",
   "CASCADE", "CHANGE", "CHANGED", "CHARACTER SET", "CHARSET", "CHECK", "CHECKSUM", "COLLATE",
   "COLLATION", "COLUMN", "COLUMNS", "COMMENT", "COMMIT", "COMMITTED", "COMPRESSED",
   "CONCURRENT", "CONSTRAINT", "CONTAINS", "CONVERT", "CREATE", "CROSS", "CURRENT_TIMESTAMP",
   "DATABASE", "DATABASES", "DAY", "DAY_HOUR", "DAY_MINUTE", "DAY_SECOND", "DEFAULT", "DEFINER",
   "DELAYED", "DELETE", "DESC", "DESCRIBE", "DETERMINISTIC", "DISTINCT", "DISTINCTROW", "DIV",
   "DO", "DROP", "DUMPFILE", "DUPLICATE", "DYNAMIC", "ENCLOSED", "ENGINE", "ENGINES",
   "ENGINE_TYPE", "ESCAPE", "ESCAPED", "EVENTS", "EXEC", "EXECUTE", "EXISTS", "EXPLAIN",
   "EXTENDED", "FAST", "FETCH", "FIELDS", "FILE", "FIRST", "FIXED", "FLUSH", "FOR", "FORCE",
   "FOREIGN", "FULL", "FULLTEXT", "FUNCTION", "GLOBAL", "GRANT", "GRANTS", "GROUP_CONCAT",
   "HEAP", "HIGH_PRIORITY", "HOSTS", "HOUR", "HOUR_MINUTE", "HOUR_SECOND", "IDENTIFIED", "IF",
   "IFNULL", "IGNORE", "IN", "INDEX", "INDEXES", "INFILE", "INSERT_ID", "INSERT_METHOD",
   "INTERVAL", "INTO", "INVOKER", "IS", "ISOLATION", "KEY", "KEYS", "KILL", "LAST_INSERT_ID",
   "LEADING", "LEVEL", "LIKE", "LINEAR", "LINES", "LOAD", "LOCAL", "LOCK", "LOCKS", "LOGS",
   "LOW_PRIORITY", "MARIA", "MASTER", "MASTER_CONNECT_RETRY", "MASTER_HOST", "MASTER_LOG_FILE",
   "MATCH", "MAX_CONNECTIONS_PER_HOUR", "MAX_QUERIES_PER_HOUR", "MAX_ROWS",
   "MAX_UPDATES_PER_HOUR", "MAX_USER_CONNECTIONS", "MEDIUM", "MERGE", "MINUTE", "MINUTE_SECOND",
   "MIN_ROWS", "MODE", "MONTH", "MRG_MYISAM", "MYISAM", "NAMES", "NATURAL", "NOT", "NULL",
   "OFFSET", "ON", "ON DELETE", "ON UPDATE", "ONLY", "OPEN", "OPTIMIZE", "OPTION", "OPTIONALLY",
   "OUTFILE", "PACK_KEYS", "PAGE", "PARTIAL", "PARTITION", "PARTITIONS", "PASSWORD", "PRIMARY",
   "PRIVILEGES", "PROCEDURE", "PROCESS", "PROCESSLIST", "PURGE", "QUICK", "RAID0", "RAID_CHUNKS",
   "RAID_CHUNKSIZE", "RAID_TYPE", "RANGE", "READ", "READ_ONLY", "READ_WRITE", "REFERENCES",
   "REGEXP", "RELOAD", "RENAME", "REPAIR", "REPEATABLE", "REPLACE", "REPLICATION", "RESET",
   "RESTORE", "RESTRICT", "RETURN", "RETURNS", "REVOKE", "RLIKE", "ROLLBACK", "ROW", "ROWS",
   "ROW_FORMAT", "SECOND", "SECURITY", "SEPARATOR", "SERIALIZABLE", "SESSION", "SHARE", "SHOW",
   "SHUTDOWN", "SLAVE", "SONAME", "SOUNDS", "SQL", "SQL_AUTO_IS_NULL", "SQL_BIG_RESULT",
   "SQL_BIG_SELECTS", "SQL_BIG_TABLES", "SQL_BUFFER_RESULT", "SQL_CACHE", "SQL_CALC_FOUND_ROWS",
   "SQL_LOG_BIN", "SQL_LOG_OFF", "SQL_LOG_UPDATE", "SQL_LOW_PRIORITY_UPDATES",
   "SQL_MAX_JOIN_SIZE", "SQL_NO_CACHE", "SQL_QUOTE_SHOW_CREATE", "SQL_SAFE_UPDATES",
   "SQL_SELECT_LIMIT", "SQL_SLAVE_SKIP_COUNTER", "SQL_SMALL_RESULT", "SQL_WARNINGS", "START",
   "STARTING", "STATUS", "STOP", "STORAGE", "STRAIGHT_JOIN", "STRING", "STRIPED", "SUPER",
   "TABLE", "TABLES", "TEMPORARY", "TERMINATED", "THEN", "TO", "TRAILING", "TRANSACTIONAL",
   "TRUE", "TRUNCATE", "TYPE", "TYPES", "UNCOMMITTED", "UNIQUE", "UNLOCK", "UNSIGNED", "USAGE",
   "USE", "USING", "VARIABLES", "VIEW", "WITH", "WORK", "WRITE", "YEAR_MONTH"]

/-- The role of a keyword in capitals; a word that is none has no role. -/
def ofKeyword? (keyword : String) : Option KeywordRole :=
  if clauseKeywords.contains keyword then some .clause
  else if joiningKeywords.contains keyword then some .joining
  else if betweenKeywords.contains keyword then some .between
  else if plainKeywords.contains keyword then some .plain
  else none

end KeywordRole

end DomainSql.Sql
