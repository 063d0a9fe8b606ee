import UptimeAlert.Calendar.ZoneTable.Africa
import UptimeAlert.Calendar.ZoneTable.America
import UptimeAlert.Calendar.ZoneTable.Asia
import UptimeAlert.Calendar.ZoneTable.Australia
import UptimeAlert.Calendar.ZoneTable.Europe
import UptimeAlert.Calendar.ZoneTable.Pacific
import UptimeAlert.Calendar.ZoneTable.Plain

namespace UptimeAlert.Zone

/-- The known zones and their names. -/
def table : List (String × Zone) := [
  ("Africa/Cairo", cairo),
  ("Africa/Monrovia", monrovia),
  ("America/Argentina/Buenos_Aires", buenosAires),
  ("America/Caracas", caracas),
  ("America/Los_Angeles", losAngeles),
  ("America/New_York", newYork),
  ("America/Nuuk", nuuk),
  ("America/Sao_Paulo", saoPaulo),
  ("America/St_Johns", stJohns),
  ("Antarctica/Troll", troll),
  ("Asia/Calcutta", kolkata),
  ("Asia/Jerusalem", jerusalem),
  ("Asia/Kathmandu", kathmandu),
  ("Asia/Kolkata", kolkata),
  ("Asia/Pyongyang", pyongyang),
  ("Asia/Tehran", tehran),
  ("Asia/Tokyo", tokyo),
  ("Australia/Eucla", eucla),
  ("Australia/Lord_Howe", lordHowe),
  ("Australia/Sydney", sydney),
  ("EST", eastern),
  ("Etc/GMT+12", west12),
  ("Etc/GMT-14", east14),
  ("Europe/Berlin", berlin),
  ("Europe/Dublin", dublin),
  ("Europe/Istanbul", istanbul),
  ("Europe/London", london),
  ("Europe/Moscow", moscow),
  ("Factory", factory),
  ("GMT", greenwich),
  ("Pacific/Apia", apia),
  ("Pacific/Chatham", chatham),
  ("Pacific/Kiritimati", kiritimati),
  ("US/Pacific", losAngeles),
  ("UTC", universal),
  ("Zulu", zulu)]

def find? (name : String) : Option Zone :=
  table.lookup name

end UptimeAlert.Zone
