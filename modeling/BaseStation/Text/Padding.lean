namespace BaseStation.Text

def padLeft (width : Nat) (text : String) : String :=
  String.ofList (List.replicate (width - text.length) ' ') ++ text

def padRight (width : Nat) (text : String) : String :=
  text ++ String.ofList (List.replicate (width - text.length) ' ')

def twoDigits (n : Nat) : String :=
  if n < 10 then "0" ++ toString n else toString n

def ofBool : Bool → String
  | true => "true"
  | false => "false"

end BaseStation.Text
