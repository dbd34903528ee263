import LogLab.Lesson

/-! # Lessons on SELECT statements -/

namespace LogLab.Lessons

def sql : List Lesson := [
  { kind := .theory
    title := "Introduction to SQL for Security"
    description := "Understanding SQL basics and how it applies to security data analysis."
    theory := [
      "SQL (Structured Query Language) is a standard language for managing and querying relational databases.",
      "In security contexts, SQL is used to query SIEM databases, log repositories, and security data warehouses.",
      "Basic SQL structure: SELECT columns FROM table WHERE conditions",
      "Key components: SELECT (what to retrieve), FROM (where to retrieve from), WHERE (filtering conditions)",
      "Common security use cases: searching authentication logs, analyzing failed logins, tracking user activity"] },
  { kind := .guided
    title := "Basic SELECT Queries"
    description := "Learn to retrieve data using SELECT statements"
    theory := [
      "The SELECT statement retrieves data from a table.",
      "Use * to select all columns, or specify column names separated by commas.",
      "The FROM clause specifies which table to query.",
      "Ending a statement with a semicolon is good practice."]
    examples := [
      ⟨"Select all authentication events",
        "SELECT * FROM auth_logs;"⟩,
      ⟨"Select specific columns",
        "SELECT username, action, timestamp FROM auth_logs;"⟩]
    task := some "Retrieve only the username and source_ip columns from the authentication logs."
    source := some .authLogs
    starterQuery := some "SELECT "
    hint := some "List the column names separated by commas after SELECT"
    check := some (.all [.minCount 1, .hasField "username" .first, .hasField "source_ip" .first,
        .fieldCount 2]) },
  { kind := .guided
    title := "Filtering with WHERE"
    description := "Filter data using WHERE conditions"
    theory := [
      "The WHERE clause filters rows based on conditions.",
      "Common operators: = (equals), != (not equals), > (greater than), < (less than), LIKE (pattern match with %)",
      "Use AND to combine multiple conditions.",
      "String values must be enclosed in single quotes."]
    examples := [
      ⟨"Find failed login attempts",
        "SELECT * FROM auth_logs WHERE action = 'failed_login';"⟩,
      ⟨"Find specific user activity",
        "SELECT * FROM auth_logs WHERE username = 'admin';"⟩]
    task := some "Find all authentication events where the action was \"failed_login\"."
    source := some .authLogs
    starterQuery := some "SELECT * FROM auth_logs WHERE "
    hint := some "Use the = operator with the action column"
    check := some (.all [.minCount 1, .fieldEquals "action" (.string "failed_login")]) },
  { kind := .practical
    title := "Sorting with ORDER BY"
    description := "Sort query results in ascending or descending order"
    theory := [
      "ORDER BY sorts results based on a column.",
      "Use ASC for ascending order (default), DESC for descending order.",
      "Useful for finding the most recent events or highest values."]
    examples := [
      ⟨"Sort by timestamp, newest first",
        "SELECT * FROM auth_logs WHERE action = 'failed_login' ORDER BY timestamp DESC;"⟩]
    task := some "Retrieve all failed logins sorted by timestamp with the newest events first."
    source := some .authLogs
    hint := some "Combine WHERE with ORDER BY timestamp DESC"
    check := some (.all [.minCount 2, .fieldEquals "action" (.string "failed_login"),
        .sortedBy "timestamp" .desc]) },
  { kind := .practical
    title := "Limiting Results"
    description := "Control the number of results returned"
    theory := [
      "LIMIT restricts the number of rows returned.",
      "Useful for performance and focusing on top results.",
      "Often combined with ORDER BY to get \"top N\" results."]
    examples := [
      ⟨"Get the 5 most recent events",
        "SELECT * FROM auth_logs ORDER BY timestamp DESC LIMIT 5;"⟩]
    task := some "Find the 3 most recent failed login attempts."
    source := some .authLogs
    hint := some "Filter for failed_login, order by timestamp DESC, and limit to 3"
    check := some (.all [.exactCount 3, .fieldEquals "action" (.string "failed_login"),
        .sortedBy "timestamp" .desc]) },
  { kind := .practical
    title := "Aggregation with COUNT"
    description := "Count rows and group data"
    theory := [
      "COUNT(*) returns the number of rows.",
      "GROUP BY groups rows that have the same values.",
      "Aggregation functions: COUNT, SUM, AVG, MAX, MIN",
      "An aggregate without an alias is named after the function, so COUNT(*) becomes count and SUM(bytes) becomes sum_bytes."]
    examples := [
      ⟨"Count login attempts per user",
        "SELECT username, COUNT(*) AS attempt_count FROM auth_logs GROUP BY username;"⟩]
    task := some "Count how many events occurred for each action type."
    source := some .authLogs
    hint := some "SELECT action, COUNT(*) ... GROUP BY action"
    check := some (.all [.minCount 1, .hasField "action" .every, .hasField "count" .every]) },
  { kind := .challenge
    title := "Investigation Challenge"
    description := "Real-world security investigation scenario"
    task := some "Security Alert: Multiple failed login attempts detected. Your mission: Identify which username has the most failed login attempts. Return the username and the count of failed attempts, ordered by count (highest first)."
    source := some .authLogs
    hint := some "Filter WHERE action = 'failed_login', GROUP BY username, COUNT(*), ORDER BY count DESC"
    check := some (.all [.minCount 1, .hasField "username" .first, .fieldIsNumber "count",
        .sortedBy "count" .desc]) },
  { kind := .challenge
    title := "Data Exfiltration Hunt"
    description := "Spot unusually large outbound transfers"
    examples := [
      ⟨"Total bytes per source",
        "SELECT src_ip, SUM(bytes) AS total FROM network_traffic GROUP BY src_ip ORDER BY total DESC;"⟩]
    task := some "Security Alert: A host may be exfiltrating data. List src_ip, dst_ip and bytes for every flow larger than 100000 bytes, largest first."
    source := some .networkTraffic
    hint := some "WHERE bytes > 100000 ORDER BY bytes DESC"
    check := some (.all [.minCount 1, .fieldCount 3, .hasField "dst_ip" .every,
      .sortedBy "bytes" .desc]) }]

end LogLab.Lessons
