namespace UptimeAlert.Template

def placeholder (name : List Char) : List Char :=
  '{' :: '{' :: name ++ ['}', '}']

def token (name : String) : String :=
  String.ofList (placeholder name.toList)

end UptimeAlert.Template
