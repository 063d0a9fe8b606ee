import UptimeAlert.Calendar.Zone

namespace UptimeAlert.Zone

def universal : Zone where
  before := 0
  changes := []
  after := .fixed 0

def troll : Zone where
  before := 0
  changes := [
    (63243763200, 0)]
  after := .seasonal 0 7200 ⟨3, 5, 0, 3600⟩ ⟨10, 5, 0, 10800⟩

def west12 : Zone where
  before := -43200
  changes := []
  after := .fixed (-43200)

def east14 : Zone where
  before := 50400
  changes := []
  after := .fixed 50400

def greenwich : Zone where
  before := 0
  changes := []
  after := .fixed 0

def zulu : Zone where
  before := 0
  changes := []
  after := .fixed 0

def eastern : Zone where
  before := -19088
  changes := [
    (59611094288, -19176), (60188678376, -18000)]
  after := .fixed (-18000)

def factory : Zone where
  before := 0
  changes := []
  after := .fixed 0

end UptimeAlert.Zone
