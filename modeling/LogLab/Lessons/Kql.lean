import LogLab.Lesson

/-! # Lessons on table pipelines -/

namespace LogLab.Lessons

def kql : List Lesson := [
  { kind := .theory
    title := "Introduction to KQL"
    description := "Understanding Kusto Query Language for Microsoft security tools"
    theory := [
      "KQL (Kusto Query Language) is used in Microsoft Sentinel, Microsoft Defender, and Azure Data Explorer.",
      "KQL uses a tabular data model with pipe-based syntax.",
      "Queries flow from a table name through pipe operators.",
      "Common in cloud security and Microsoft ecosystem security operations."] },
  { kind := .guided
    title := "Where Operator"
    description := "Filter data with where conditions"
    theory := [
      "The where operator filters rows based on a predicate.",
      "Use == for equality (not single =).",
      "Common operators: ==, !=, >, <, >=, <=, contains"]
    examples := [
      ⟨"Filter by action",
        "auth_logs | where action == \"failed_login\""⟩,
      ⟨"Filter with contains",
        "auth_logs | where username contains \"admin\""⟩]
    task := some "Filter authentication logs to show only successful logins."
    source := some .authLogs
    starterQuery := some "auth_logs | where "
    hint := some "Use action == \"successful_login\""
    check := some (.all [.minCount 1, .fieldEquals "action" (.string "successful_login")]) },
  { kind := .guided
    title := "Project Operator"
    description := "Select specific columns"
    theory := [
      "The project operator selects which columns to include in results.",
      "Similar to SELECT in SQL.",
      "Columns can be renamed with new_name = column.",
      "Helps reduce data size and focus on relevant fields."]
    examples := [
      ⟨"Select specific columns",
        "auth_logs | where action == \"failed_login\" | project username, source_ip, timestamp"⟩]
    task := some "Show failed logins with only username and source_ip columns."
    source := some .authLogs
    starterQuery := some "auth_logs | where action == \"failed_login\" | project "
    hint := some "List the column names: username, source_ip"
    check := some (.all [.minCount 1, .hasField "username" .first, .hasField "source_ip" .first]) },
  { kind := .practical
    title := "Summarize Operator"
    description := "Aggregate and group data"
    theory := [
      "The summarize operator performs aggregations.",
      "count() counts the rows in each group.",
      "Use \"by\" to group results.",
      "Essential for statistical analysis and pattern detection."]
    examples := [
      ⟨"Count by action type",
        "auth_logs | summarize count() by action"⟩]
    task := some "Count failed login attempts for each username."
    source := some .authLogs
    hint := some "Filter where action == \"failed_login\", then summarize count() by username"
    check := some (.all [.minCount 1, .hasField "username" .every, .hasField "count" .every]) },
  { kind := .practical
    title := "Sort and Take Operators"
    description := "Order and limit results"
    theory := [
      "The sort by operator orders results by a column.",
      "Use \"desc\" for descending, \"asc\" for ascending (default).",
      "The take operator limits results to N rows.",
      "Combine them for \"top N\" queries."]
    examples := [
      ⟨"Top 5 users by activity",
        "auth_logs | summarize count() by username | sort by count desc | take 5"⟩]
    task := some "Find the top 3 users with the most failed login attempts."
    source := some .authLogs
    hint := some "Filter, summarize count() by username, sort by count desc, take 3"
    check := some (.all [.minCount 1, .maxCount 3, .hasField "username" .every,
      .sortedBy "count" .desc]) },
  { kind := .practical
    title := "Renaming Columns"
    description := "Reshape results with project"
    theory := [
      "project can rename a column with new_name = column.",
      "Renamed columns can be used by later operators."]
    examples := [
      ⟨"Rename a column",
        "auth_logs | project user = username, action"⟩]
    task := some "Project username and action fields from all authentication logs."
    source := some .authLogs
    hint := some "auth_logs | project username, action"
    check := some (.all [.minCount 1, .hasField "username" .first, .hasField "action" .first,
      .fieldCount 2]) },
  { kind := .challenge
    title := "Advanced Threat Detection"
    description := "Multi-stage security investigation"
    task := some "Incident Response: Investigate authentication anomalies. Find users with more than 2 failed login attempts, sorted by attempt count (highest first). Show username and count."
    source := some .authLogs
    hint := some "where action == \"failed_login\" | summarize count() by username | where count > 2 | sort by count desc"
    check := some (.all [.minCount 1, .hasField "username" .every, .fieldIsNumber "count",
        .sortedBy "count" .desc]) }]

end LogLab.Lessons
