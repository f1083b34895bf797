import RelativeTime.Text.Quoted
import RelativeTime.Zone.Database

/-!
# Recent zones

A database for running: a few zones with their clock changes since the year 2000, in seconds since
1970. It is laid out as a tree of files, in which the front of a known key is a directory.
-/

namespace RelativeTime

namespace RecentZones

def berlin : ZoneData where
  base := 3600
  changes := []
  rule := "CET-1CEST,M3.5.0,M10.5.0/3"

def dublin : ZoneData where
  base := 3600
  changes := []
  rule := "IST-1GMT0,M10.5.0,M3.5.0/1"

def newYork : ZoneData where
  base := -18000
  changes := [
    (954658800, -14400, true), (972799200, -18000, false), (986108400, -14400, true),
    (1004248800, -18000, false), (1018162800, -14400, true), (1035698400, -18000, false),
    (1049612400, -14400, true), (1067148000, -18000, false), (1081062000, -14400, true),
    (1099202400, -18000, false), (1112511600, -14400, true), (1130652000, -18000, false),
    (1143961200, -14400, true), (1162101600, -18000, false), (1173596400, -14400, true)]
  rule := "EST5EDT,M3.2.0,M11.1.0"

def stJohns : ZoneData where
  base := -12600
  changes := [
    (954646260, -9000, true), (972786660, -12600, false), (986095860, -9000, true),
    (1004236260, -12600, false), (1018150260, -9000, true), (1035685860, -12600, false),
    (1049599860, -9000, true), (1067135460, -12600, false), (1081049460, -9000, true),
    (1099189860, -12600, false), (1112499060, -9000, true), (1130639460, -12600, false),
    (1143948660, -9000, true), (1162089060, -12600, false), (1173583860, -9000, true),
    (1194143460, -12600, false), (1205033460, -9000, true), (1225593060, -12600, false),
    (1236483060, -9000, true), (1257042660, -12600, false), (1268537460, -9000, true),
    (1289097060, -12600, false), (1299987060, -9000, true), (1320114600, -9000, true)]
  rule := "NST3:30NDT,M3.2.0,M11.1.0"

def saoPaulo : ZoneData where
  base := -10800
  changes := [
    (938919600, -7200, true), (951616800, -10800, false), (970974000, -7200, true),
    (982461600, -10800, false), (1003028400, -7200, true), (1013911200, -10800, false),
    (1036292400, -7200, true), (1045360800, -10800, false), (1066532400, -7200, true),
    (1076810400, -10800, false), (1099364400, -7200, true), (1108864800, -10800, false),
    (1129431600, -7200, true), (1140314400, -10800, false), (1162695600, -7200, true),
    (1172368800, -10800, false), (1192330800, -7200, true), (1203213600, -10800, false),
    (1224385200, -7200, true), (1234663200, -10800, false), (1255834800, -7200, true),
    (1266717600, -10800, false), (1287284400, -7200, true), (1298167200, -10800, false),
    (1318734000, -7200, true), (1330221600, -10800, false), (1350788400, -7200, true),
    (1361066400, -10800, false), (1382238000, -7200, true), (1392516000, -10800, false),
    (1413687600, -7200, true), (1424570400, -10800, false), (1445137200, -7200, true),
    (1456020000, -10800, false), (1476586800, -7200, true), (1487469600, -10800, false),
    (1508036400, -7200, true), (1518919200, -10800, false), (1541300400, -7200, true),
    (1550368800, -10800, false)]
  rule := "<-03>3"

def havana : ZoneData where
  base := -18000
  changes := [
    (954651600, -14400, true), (972795600, -18000, false), (986101200, -14400, true),
    (1004245200, -18000, false), (1018155600, -14400, true), (1035694800, -18000, false),
    (1049605200, -14400, true), (1067144400, -18000, false), (1080450000, -14400, true),
    (1162098000, -18000, false), (1173589200, -14400, true), (1193547600, -18000, false),
    (1205643600, -14400, true), (1224997200, -18000, false), (1236488400, -14400, true),
    (1256446800, -18000, false), (1268542800, -14400, true), (1288501200, -18000, false),
    (1300597200, -14400, true), (1321160400, -18000, false), (1333256400, -14400, true),
    (1352005200, -18000, false), (1362891600, -14400, true), (1383454800, -18000, false),
    (1394341200, -14400, true), (1414904400, -18000, false), (1425790800, -14400, true),
    (1446354000, -18000, false), (1457845200, -14400, true), (1478408400, -18000, false),
    (1489294800, -14400, true), (1509858000, -18000, false), (1520744400, -14400, true),
    (1541307600, -18000, false), (1552194000, -14400, true), (1572757200, -18000, false),
    (1583643600, -14400, true), (1604206800, -18000, false), (1615698000, -14400, true),
    (1636261200, -18000, false), (1647147600, -14400, true), (1667710800, -18000, false),
    (1678597200, -14400, true), (1699160400, -18000, false), (1710046800, -14400, true),
    (1730610000, -18000, false), (1741496400, -14400, true), (1762059600, -18000, false),
    (1772946000, -14400, true), (1825563600, -18000, false)]
  rule := "CST5CDT,M3.2.0/0,M11.1.0/1"

def tokyo : ZoneData where
  base := 32400
  changes := []
  rule := "JST-9"

def kolkata : ZoneData where
  base := 19800
  changes := []
  rule := "IST-5:30"

def kathmandu : ZoneData where
  base := 20700
  changes := []
  rule := "<+0545>-5:45"

def tehran : ZoneData where
  base := 12600
  changes := [
    (953584200, 16200, true), (969478200, 12600, false), (985206600, 16200, true),
    (1001100600, 12600, false), (1016742600, 16200, true), (1032636600, 12600, false),
    (1048278600, 16200, true), (1064172600, 12600, false), (1079814600, 16200, true),
    (1095708600, 12600, false), (1111437000, 16200, true), (1127331000, 12600, false),
    (1206045000, 16200, true), (1221939000, 12600, false), (1237667400, 16200, true),
    (1253561400, 12600, false), (1269203400, 16200, true), (1285097400, 12600, false),
    (1300739400, 16200, true), (1316633400, 12600, false), (1332275400, 16200, true),
    (1348169400, 12600, false), (1363897800, 16200, true), (1379791800, 12600, false),
    (1395433800, 16200, true), (1411327800, 12600, false), (1426969800, 16200, true),
    (1442863800, 12600, false), (1458505800, 16200, true), (1474399800, 12600, false),
    (1490128200, 16200, true), (1506022200, 12600, false), (1521664200, 16200, true),
    (1537558200, 12600, false), (1553200200, 16200, true), (1569094200, 12600, false),
    (1584736200, 16200, true), (1600630200, 12600, false), (1616358600, 16200, true),
    (1632252600, 12600, false), (1647894600, 16200, true), (1663788600, 12600, false)]
  rule := "<+0330>-3:30"

def lordHowe : ZoneData where
  base := 37800
  changes := [
    (941297400, 39600, true), (953996400, 37800, false), (967303800, 39600, true),
    (985446000, 37800, false), (1004196600, 39600, true), (1017500400, 37800, false),
    (1035646200, 39600, true), (1048950000, 37800, false), (1067095800, 39600, true),
    (1080399600, 37800, false), (1099150200, 39600, true), (1111849200, 37800, false),
    (1130599800, 39600, true), (1143903600, 37800, false), (1162049400, 39600, true),
    (1174748400, 37800, false), (1193499000, 39600, true), (1207407600, 37800, false)]
  rule := "<+1030>-10:30<+11>-11,M10.1.0,M4.1.0"

def chatham : ZoneData where
  base := 45900
  changes := [
    (938872800, 49500, true), (953388000, 45900, false), (970322400, 49500, true),
    (984837600, 45900, false), (1002376800, 49500, true), (1016287200, 45900, false),
    (1033826400, 49500, true), (1047736800, 45900, false), (1065276000, 49500, true),
    (1079791200, 45900, false), (1096725600, 49500, true), (1111240800, 45900, false),
    (1128175200, 49500, true), (1142690400, 45900, false), (1159624800, 49500, true),
    (1174140000, 45900, false), (1191074400, 49500, true)]
  rule := "<+1245>-12:45<+1345>,M9.5.0/2:45,M4.1.0/3:45"

def troll : ZoneData where
  base := 0
  changes := [
    (1108166400, 0, false)]
  rule := "<+00>0<+02>-2,M3.5.0/1,M10.5.0/3"

def apia : ZoneData where
  base := -39600
  changes := [
    (1285498800, -36000, true), (1301752800, -39600, false), (1316872800, -36000, true),
    (1325239200, 50400, true), (1333202400, 46800, false), (1348927200, 50400, true),
    (1365256800, 46800, false), (1380376800, 50400, true), (1396706400, 46800, false),
    (1411826400, 50400, true), (1428156000, 46800, false), (1443276000, 50400, true),
    (1459605600, 46800, false), (1474725600, 50400, true), (1491055200, 46800, false),
    (1506175200, 50400, true), (1522504800, 46800, false), (1538229600, 50400, true),
    (1554559200, 46800, false), (1569679200, 50400, true), (1586008800, 46800, false),
    (1601128800, 50400, true), (1617458400, 46800, false)]
  rule := "<+13>-13"

def all : List (String × ZoneData) := [
  ("Europe/Berlin", berlin),
  ("Europe/Dublin", dublin),
  ("America/New_York", newYork),
  ("America/St_Johns", stJohns),
  ("America/Sao_Paulo", saoPaulo),
  ("America/Havana", havana),
  ("Asia/Tokyo", tokyo),
  ("Asia/Kolkata", kolkata),
  ("Asia/Kathmandu", kathmandu),
  ("Asia/Tehran", tehran),
  ("Australia/Lord_Howe", lordHowe),
  ("Pacific/Chatham", chatham),
  ("Antarctica/Troll", troll),
  ("Pacific/Apia", apia)]

/-! ## Looking up -/

/-- The longest name of a file, in bytes. -/
def longestName : Nat := 255

/-- The number of parts at which a path is too deep to be followed. -/
def deepest : Nat := 250

def directories : List (List (List Char)) :=
  (all.map fun (key, _) => (ZoneKey.parts key.toList).dropLast).eraseDups

/-- What goes wrong under a key that is not listed. Only in a directory that is there can a file be opened
at all. -/
def lookupError (key : String) : LookupError :=
  let parts := ZoneKey.parts key.toList
  let name := String.ofList (parts.getLast?.getD [])
  if deepest ≤ parts.length then .tooDeep "maximum recursion depth exceeded"
  else if parts ∈ directories then .inaccessible ("Is a directory: " ++ Text.quoted key)
  else if parts.dropLast ∈ [] :: directories ∧ longestName < name.utf8ByteSize then
    .inaccessible ("File name too long: " ++ Text.quoted key)
  else .unknown

def find (key : String) : Except LookupError Zone :=
  if key = "UTC" then .ok .utc
  else match (all.lookup key).bind Zone.ofData? with
    | some zone => .ok zone
    | none => .error (lookupError key)

def findForStamp (key : String) : Except ZoneKeyError Zone :=
  if key = "" then .error .empty
  else match ZoneKey.problem? key with
    | some problem => .error problem
    | none => (find key).mapError (.lookup key)

theorem undashed {key : String} {zone : Zone} (found : find key = .ok zone) :
    key.toList.head? ≠ some '-' := by
  have listed : ∀ entry ∈ all, entry.1.toList.head? ≠ some '-' := by decide
  rw [find] at found
  split at found
  case isTrue universal =>
    subst universal
    decide
  case isFalse =>
    split at found
    case h_1 zone' described =>
      obtain ⟨data, inTable, -⟩ := Option.bind_eq_some_iff.mp described
      obtain ⟨before, after, all, -⟩ := List.lookup_eq_some_iff.mp inTable
      exact listed (key, data) (all ▸ by simp)
    case h_2 => cases found

theorem findForStamp_of_find {key : String} {zone : Zone} (accepted : ZoneKey.problem? key = none)
    (found : find key = .ok zone) : findForStamp key = .ok zone := by
  have filled : key ≠ "" := by
    rintro rfl
    cases accepted
  rw [findForStamp, if_neg filled, accepted, found]
  rfl

end RecentZones

instance : ZoneDatabase where
  find := RecentZones.find
  findForStamp := RecentZones.findForStamp
  find_utc := ⟨.utc, rfl⟩
  undashed := RecentZones.undashed
  findForStamp_of_find := RecentZones.findForStamp_of_find
  findForStamp_empty := rfl

end RelativeTime
