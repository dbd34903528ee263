import LogLab.Lesson

/-! # Lessons on detection rules -/

namespace LogLab.Lessons

def sigma : List Lesson := [
  { kind := .theory
    title := "Introduction to Sigma"
    description := "Understanding Sigma detection rules"
    theory := [
      "Sigma is a generic signature format for SIEM systems.",
      "It allows writing detection rules once and converting them to any SIEM query language.",
      "Rules are written in YAML.",
      "Key components: title, description, detection (selection + condition), level",
      "Designed for sharing threat detection rules across platforms."] },
  { kind := .guided
    title := "Basic Sigma Rule Structure"
    description := "Learn Sigma rule components"
    theory := [
      "Title: Brief description of what the rule detects",
      "Description: Detailed explanation of the threat",
      "Detection: Contains selection criteria and conditions",
      "Selection: Field-value pairs that must match",
      "Condition: Logic for how selections combine",
      "Level: Severity (low, medium, high, critical)"]
    examples := [
      ⟨"Detect failed logins",
        "title: Failed Login Attempts\ndescription: Detects failed authentication attempts\ndetection:\n  selection:\n    action: 'failed_login'\n  condition: selection\nlevel: medium"⟩]
    task := some "Create a Sigma rule that detects successful login events. Use the template provided."
    source := some .authLogs
    starterQuery := some "title: Successful Logins\ndescription: Detects successful authentication\ndetection:\n  selection:\n    action: 'successful_login'\n  condition: selection\nlevel: low"
    hint := some "Change the action value to successful_login"
    check := some (.minCount 1) },
  { kind := .guided
    title := "Multiple Field Selection"
    description := "Match on multiple criteria"
    theory := [
      "Selections can include multiple field-value pairs.",
      "All fields in a selection must match (AND logic).",
      "Modifiers refine a match: field|startswith, field|endswith, field|contains."]
    examples := [
      ⟨"Detect admin failed logins",
        "title: Admin Failed Login\ndescription: Failed login to admin account\ndetection:\n  selection:\n    username: 'admin'\n    action: 'failed_login'\n  condition: selection\nlevel: high"⟩]
    task := some "Detect failed login attempts from a specific user (choose any username from the data)."
    source := some .authLogs
    hint := some "Add both username and action fields to the selection"
    check := some (.all [.minCount 1, .fieldEquals "action" (.string "failed_login")]) },
  { kind := .practical
    title := "Detection Patterns"
    description := "Build practical threat detection rules"
    theory := [
      "Sigma rules should focus on specific attack patterns.",
      "Use appropriate severity levels based on threat impact.",
      "Consider the false positive rate when designing rules."]
    task := some "Create a rule to detect any authentication failures. Set level to medium."
    source := some .authLogs
    starterQuery := some "title: Authentication Failures\ndescription: \ndetection:\n  selection:\n    action: \n  condition: selection\nlevel: "
    hint := some "Fill in the action field with failed_login and set level to medium"
    check := some (.all [.minCount 1, .fieldEquals "action" (.string "failed_login")]) },
  { kind := .practical
    title := "Suspicious Process Execution"
    description := "Detect encoded PowerShell"
    theory := [
      "Attackers often launch PowerShell with an encoded command (-enc) to hide intent.",
      "command_line|contains matches a fragment anywhere in the command line."]
    examples := [
      ⟨"Detect shells spawned by Office",
        "title: Office Child Shell\ndetection:\n  selection:\n    parent_process|startswith: winword\n  condition: selection\nlevel: high"⟩]
    task := some "Write a rule that flags powershell.exe processes whose command line contains -enc."
    source := some .processEvents
    hint := some "Use process_name: powershell.exe and command_line|contains: -enc"
    check := some (.all [.minCount 1, .fieldEquals "process_name" (.string "powershell.exe")]) },
  { kind := .challenge
    title := "Advanced Detection Rule"
    description := "Create a comprehensive detection rule"
    task := some "Create a Sigma rule to detect potential brute force attacks: multiple failed login attempts. Make it as specific as possible with appropriate severity."
    source := some .authLogs
    hint := some "Focus on the failed_login action, consider a high severity level"
    check := some (.all [.minCount 1, .fieldEquals "action" (.string "failed_login")]) }]

end LogLab.Lessons
