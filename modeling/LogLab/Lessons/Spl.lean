import LogLab.Lesson

/-! # Lessons on search pipelines -/

namespace LogLab.Lessons

def spl : List Lesson := [
  { kind := .theory
    title := "Introduction to SPL"
    description := "Understanding Splunk Processing Language fundamentals"
    theory := [
      "SPL (Splunk Processing Language) is the query language used in Splunk.",
      "SPL uses a pipeline approach: commands are chained together with the pipe (|) character.",
      "Data flows left to right through each command in the pipeline.",
      "Basic structure: search criteria | transform | format",
      "Command names are case-insensitive."] },
  { kind := .guided
    title := "Search Command Basics"
    description := "Learn the fundamental search command"
    theory := [
      "The search command filters events based on field values.",
      "Syntax: search field=value",
      "Multiple field=value terms must all match.",
      "Wildcards (*) can be used for partial matches."]
    examples := [
      ⟨"Search for failed logins",
        "search action=failed_login"⟩,
      ⟨"Search for specific user",
        "search username=admin"⟩]
    task := some "Search for all events where the action is \"successful_login\"."
    source := some .authLogs
    starterQuery := some "search "
    hint := some "Use action=successful_login"
    check := some (.all [.minCount 1, .fieldEquals "action" (.string "successful_login")]) },
  { kind := .guided
    title := "Table Command"
    description := "Format output with specific fields"
    theory := [
      "The table command displays only specified fields.",
      "Syntax: | table field1 field2 field3",
      "Useful for cleaning up output and focusing on relevant data.",
      "Fields are displayed in the order specified."]
    examples := [
      ⟨"Display specific fields",
        "search action=failed_login | table username source_ip timestamp"⟩]
    task := some "Search for failed logins and display only the username and source_ip fields."
    source := some .authLogs
    starterQuery := some "search action=failed_login | table "
    hint := some "List the field names after the table command"
    check := some (.all [.minCount 1, .hasField "username" .first, .hasField "source_ip" .first]) },
  { kind := .practical
    title := "Stats Command"
    description := "Aggregate and analyze data"
    theory := [
      "The stats command performs statistical operations.",
      "stats count by field counts the events for each value of the field.",
      "Use the \"by\" clause to group results.",
      "Syntax: | stats count by field"]
    examples := [
      ⟨"Count events by user",
        "search action=failed_login | stats count by username"⟩]
    task := some "Count how many failed login attempts each username has."
    source := some .authLogs
    hint := some "search action=failed_login | stats count by username"
    check := some (.all [.minCount 1, .hasField "username" .every, .hasField "count" .every]) },
  { kind := .practical
    title := "Sort Command"
    description := "Order results for better analysis"
    theory := [
      "The sort command orders results by a field.",
      "Prefix with - for descending order, or use + for ascending.",
      "Default is ascending order."]
    examples := [
      ⟨"Sort by count descending",
        "search * | stats count by action | sort -count"⟩]
    task := some "Find failed logins per user and sort by count (highest first)."
    source := some .authLogs
    hint := some "Use stats count by username, then sort -count"
    check := some (.all [.minCount 1, .hasField "count" .every, .sortedBy "count" .desc]) },
  { kind := .practical
    title := "Head Command"
    description := "Limit results to top N events"
    theory := [
      "The head command returns the first N results; tail returns the last N.",
      "Syntax: | head N",
      "Often used after sorting to get top results."]
    examples := [
      ⟨"Get top 5 users by failed logins",
        "search action=failed_login | stats count by username | sort -count | head 5"⟩]
    task := some "Find the top 3 usernames with the most failed login attempts."
    source := some .authLogs
    hint := some "Combine stats, sort, and head commands"
    check := some (.all [.minCount 1, .maxCount 3, .hasField "username" .every,
      .sortedBy "count" .desc]) },
  { kind := .practical
    title := "Hunting in DNS"
    description := "Look for tunnelling in DNS logs"
    theory := [
      "DNS tunnelling often hides data in TXT queries to odd-looking subdomains.",
      "search works on any data source, not only authentication logs."]
    examples := [
      ⟨"All NXDOMAIN responses",
        "search response_code=NXDOMAIN | table client_ip query"⟩]
    task := some "Find every TXT query and show only the client_ip and query fields."
    source := some .dnsLogs
    starterQuery := some "search "
    hint := some "search query_type=TXT | table client_ip query"
    check := some (.all [.minCount 1, .hasField "client_ip" .every, .hasField "query" .every,
      .fieldCount 2]) },
  { kind := .challenge
    title := "Threat Hunting Challenge"
    description := "Identify suspicious authentication patterns"
    task := some "Security Alert: Potential brute force attack detected. Find the top user with failed login attempts and show their username and count."
    source := some .authLogs
    hint := some "search action=failed_login | stats count by username | sort -count | head 1"
    check := some (.all [.exactCount 1, .hasField "username" .first, .fieldIsNumber "count"]) }]

end LogLab.Lessons
