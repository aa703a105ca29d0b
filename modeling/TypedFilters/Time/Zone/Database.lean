import TypedFilters.Time.Zone.Rule

/-!
# The known time zones

The table of zones by name, from the time zone database. Changes that follow no rule are listed;
where a rule holds for some years, its changes are generated, in the last stretch up to the year
2099. Names are matched exactly.
-/

namespace TypedFilters.Zone

/-- The offset changes of Berlin. -/
def europeBerlinChanges : List OffsetChange :=
  List.flatten
    [[⟨-2422054408, 3600⟩, ⟨-1693706400, 7200⟩, ⟨-1680483600, 3600⟩, ⟨-1663455600, 7200⟩,
      ⟨-1650150000, 3600⟩, ⟨-1632006000, 7200⟩, ⟨-1618700400, 3600⟩, ⟨-938905200, 7200⟩,
      ⟨-857257200, 3600⟩, ⟨-844556400, 7200⟩, ⟨-828226800, 3600⟩, ⟨-812502000, 7200⟩,
      ⟨-796777200, 3600⟩, ⟨-781052400, 7200⟩, ⟨-776563200, 10800⟩, ⟨-765936000, 7200⟩,
      ⟨-761180400, 3600⟩, ⟨-748479600, 7200⟩, ⟨-733273200, 3600⟩, ⟨-717631200, 7200⟩,
      ⟨-714610800, 10800⟩, ⟨-710380800, 7200⟩, ⟨-701910000, 3600⟩, ⟨-684975600, 7200⟩,
      ⟨-670460400, 3600⟩, ⟨-654130800, 7200⟩, ⟨-639010800, 3600⟩, ⟨323830800, 7200⟩,
      ⟨338950800, 3600⟩],
     YearlyChange.changes 1981 1995 [⟨3, .last, 3600, 7200⟩, ⟨9, .last, 3600, 3600⟩],
     YearlyChange.changes 1996 2099 [⟨3, .last, 3600, 7200⟩, ⟨10, .last, 3600, 3600⟩]]

/-- The offset changes of London. -/
def europeLondonChanges : List OffsetChange :=
  List.flatten
    [[⟨-3852662325, 0⟩, ⟨-1691964000, 3600⟩, ⟨-1680472800, 0⟩, ⟨-1664143200, 3600⟩,
      ⟨-1650146400, 0⟩, ⟨-1633903200, 3600⟩, ⟨-1617487200, 0⟩, ⟨-1601848800, 3600⟩,
      ⟨-1586037600, 0⟩, ⟨-1570399200, 3600⟩, ⟨-1552168800, 0⟩, ⟨-1538344800, 3600⟩,
      ⟨-1522533600, 0⟩, ⟨-1507500000, 3600⟩, ⟨-1490565600, 0⟩, ⟨-1473631200, 3600⟩,
      ⟨-1460930400, 0⟩, ⟨-1442786400, 3600⟩, ⟨-1428876000, 0⟩, ⟨-1410732000, 3600⟩,
      ⟨-1396216800, 0⟩, ⟨-1379282400, 3600⟩, ⟨-1364767200, 0⟩, ⟨-1348437600, 3600⟩,
      ⟨-1333317600, 0⟩, ⟨-1315778400, 3600⟩, ⟨-1301263200, 0⟩, ⟨-1284328800, 3600⟩,
      ⟨-1269813600, 0⟩],
     YearlyChange.changes 1930 1932 [⟨4, .onOrAfter 13, 7200, 3600⟩, ⟨10, .onOrAfter 1, 7200, 0⟩],
     [⟨-1159135200, 3600⟩, ⟨-1143410400, 0⟩, ⟨-1126476000, 3600⟩, ⟨-1111960800, 0⟩],
     YearlyChange.changes 1935 1937 [⟨4, .onOrAfter 13, 7200, 3600⟩, ⟨10, .onOrAfter 1, 7200, 0⟩],
     [⟨-1001282400, 3600⟩, ⟨-986162400, 0⟩, ⟨-969228000, 3600⟩, ⟨-950479200, 0⟩,
      ⟨-942012000, 3600⟩, ⟨-904518000, 7200⟩, ⟨-896050800, 3600⟩, ⟨-875487600, 7200⟩,
      ⟨-864601200, 3600⟩, ⟨-844038000, 7200⟩, ⟨-832546800, 3600⟩, ⟨-812588400, 7200⟩,
      ⟨-798073200, 3600⟩, ⟨-781052400, 7200⟩, ⟨-772066800, 3600⟩, ⟨-764805600, 0⟩,
      ⟨-748476000, 3600⟩, ⟨-733356000, 0⟩, ⟨-719445600, 3600⟩, ⟨-717030000, 7200⟩,
      ⟨-706748400, 3600⟩, ⟨-699487200, 0⟩, ⟨-687996000, 3600⟩, ⟨-668037600, 0⟩,
      ⟨-654732000, 3600⟩, ⟨-636588000, 0⟩],
     YearlyChange.changes 1950 1952 [⟨4, .onOrAfter 15, 7200, 3600⟩, ⟨10, .onOrAfter 20, 7200, 0⟩],
     [⟨-527119200, 3600⟩, ⟨-512604000, 0⟩, ⟨-496274400, 3600⟩, ⟨-481154400, 0⟩,
      ⟨-464220000, 3600⟩, ⟨-449704800, 0⟩, ⟨-432165600, 3600⟩, ⟨-417650400, 0⟩],
     YearlyChange.changes 1957 1959 [⟨4, .onOrAfter 14, 7200, 3600⟩, ⟨10, .onOrAfter 1, 7200, 0⟩],
     [⟨-306972000, 3600⟩, ⟨-291852000, 0⟩],
     YearlyChange.changes 1961 1963 [⟨3, .last, 7200, 3600⟩, ⟨10, .last, 7200, 0⟩],
     YearlyChange.changes 1964 1967 [⟨3, .onOrAfter 16, 7200, 3600⟩, ⟨10, .onOrAfter 23, 7200, 0⟩],
     [⟨-59004000, 3600⟩, ⟨57722400, 0⟩],
     YearlyChange.changes 1972 1980 [⟨3, .onOrAfter 15, 7200, 3600⟩, ⟨10, .onOrAfter 23, 7200, 0⟩],
     YearlyChange.changes 1981 1994 [⟨3, .last, 3600, 3600⟩, ⟨10, .onOrAfter 23, 3600, 0⟩],
     [⟨796179600, 3600⟩, ⟨814323600, 0⟩],
     YearlyChange.changes 1996 2099 [⟨3, .last, 3600, 3600⟩, ⟨10, .last, 3600, 0⟩]]

/-- The offset changes of New York. -/
def americaNewYorkChanges : List OffsetChange :=
  List.flatten
    [[⟨-2717650800, -18000⟩],
     YearlyChange.changes 1918 1920 [⟨3, .last, 25200, -14400⟩, ⟨10, .last, 21600, -18000⟩],
     YearlyChange.changes 1921 1941 [⟨4, .last, 25200, -14400⟩, ⟨9, .last, 21600, -18000⟩],
     [⟨-880218000, -14400⟩, ⟨-765396000, -18000⟩],
     YearlyChange.changes 1946 1954 [⟨4, .last, 25200, -14400⟩, ⟨9, .last, 21600, -18000⟩],
     YearlyChange.changes 1955 1973 [⟨4, .last, 25200, -14400⟩, ⟨10, .last, 21600, -18000⟩],
     [⟨126687600, -14400⟩, ⟨152085600, -18000⟩, ⟨162370800, -14400⟩, ⟨183535200, -18000⟩],
     YearlyChange.changes 1976 1986 [⟨4, .last, 25200, -14400⟩, ⟨10, .last, 21600, -18000⟩],
     YearlyChange.changes 1987 2006 [⟨4, .onOrAfter 1, 25200, -14400⟩, ⟨10, .last, 21600, -18000⟩],
     YearlyChange.changes 2007 2099
       [⟨3, .onOrAfter 8, 25200, -14400⟩, ⟨11, .onOrAfter 1, 21600, -18000⟩]]

/-- The offset changes of São Paulo. -/
def americaSaoPauloChanges : List OffsetChange :=
  List.flatten
    [[⟨-1767214412, -10800⟩, ⟨-1206957600, -7200⟩, ⟨-1191362400, -10800⟩, ⟨-1175374800, -7200⟩,
      ⟨-1159826400, -10800⟩, ⟨-633819600, -7200⟩, ⟨-622069200, -10800⟩, ⟨-602283600, -7200⟩,
      ⟨-591832800, -10800⟩, ⟨-570747600, -7200⟩, ⟨-560210400, -10800⟩, ⟨-539125200, -7200⟩,
      ⟨-531352800, -10800⟩, ⟨-195426000, -7200⟩, ⟨-184197600, -10800⟩, ⟨-155163600, -7200⟩,
      ⟨-150069600, -10800⟩, ⟨-128898000, -7200⟩, ⟨-121125600, -10800⟩, ⟨-99954000, -7200⟩,
      ⟨-89589600, -10800⟩, ⟨-68418000, -7200⟩, ⟨-57967200, -10800⟩, ⟨499748400, -7200⟩,
      ⟨511236000, -10800⟩, ⟨530593200, -7200⟩, ⟨540266400, -10800⟩, ⟨562129200, -7200⟩,
      ⟨571197600, -10800⟩, ⟨592974000, -7200⟩, ⟨602042400, -10800⟩, ⟨624423600, -7200⟩,
      ⟨634701600, -10800⟩, ⟨656478000, -7200⟩, ⟨666756000, -10800⟩, ⟨687927600, -7200⟩,
      ⟨697600800, -10800⟩, ⟨719982000, -7200⟩, ⟨728445600, -10800⟩, ⟨750826800, -7200⟩,
      ⟨761709600, -10800⟩, ⟨782276400, -7200⟩, ⟨793159200, -10800⟩, ⟨813726000, -7200⟩,
      ⟨824004000, -10800⟩, ⟨844570800, -7200⟩, ⟨856058400, -10800⟩, ⟨876106800, -7200⟩,
      ⟨888717600, -10800⟩, ⟨908074800, -7200⟩, ⟨919562400, -10800⟩, ⟨938919600, -7200⟩,
      ⟨951616800, -10800⟩, ⟨970974000, -7200⟩, ⟨982461600, -10800⟩, ⟨1003028400, -7200⟩,
      ⟨1013911200, -10800⟩, ⟨1036292400, -7200⟩, ⟨1045360800, -10800⟩, ⟨1066532400, -7200⟩,
      ⟨1076810400, -10800⟩, ⟨1099364400, -7200⟩, ⟨1108864800, -10800⟩, ⟨1129431600, -7200⟩,
      ⟨1140314400, -10800⟩, ⟨1162695600, -7200⟩, ⟨1172368800, -10800⟩, ⟨1192330800, -7200⟩],
     YearlyChange.changes 2008 2011
       [⟨2, .onOrAfter 15, 7200, -10800⟩, ⟨10, .onOrAfter 15, 10800, -7200⟩],
     [⟨1330221600, -10800⟩, ⟨1350788400, -7200⟩],
     YearlyChange.changes 2013 2017
       [⟨2, .onOrAfter 16, 7200, -10800⟩, ⟨10, .onOrAfter 15, 10800, -7200⟩],
     [⟨1518919200, -10800⟩, ⟨1541300400, -7200⟩, ⟨1550368800, -10800⟩]]

/-- The offset changes of St. John's. -/
def americaStJohnsChanges : List OffsetChange :=
  List.flatten
    [[⟨-1664130548, -9052⟩, ⟨-1650137348, -12652⟩, ⟨-1632076148, -9052⟩, ⟨-1615145348, -12652⟩,
      ⟨-1598650148, -9052⟩, ⟨-1590100148, -12652⟩],
     YearlyChange.changes 1920 1934 [⟨5, .onOrAfter 1, 95452, -9052⟩, ⟨10, .last, 91852, -12652⟩],
     [⟨-1096921748, -12600⟩, ⟨-1093728600, -9000⟩, ⟨-1078612200, -12600⟩, ⟨-1061670600, -9000⟩,
      ⟨-1048973400, -12600⟩, ⟨-1030221000, -9000⟩, ⟨-1017523800, -12600⟩, ⟨-998771400, -9000⟩,
      ⟨-986074200, -12600⟩, ⟨-966717000, -9000⟩, ⟨-954624600, -12600⟩, ⟨-935267400, -9000⟩,
      ⟨-922570200, -12600⟩, ⟨-903817800, -9000⟩, ⟨-891120600, -12600⟩, ⟨-872368200, -9000⟩,
      ⟨-765401400, -12600⟩],
     YearlyChange.changes 1946 1950
       [⟨5, .onOrAfter 8, 19800, -9000⟩, ⟨10, .onOrAfter 2, 16200, -12600⟩],
     YearlyChange.changes 1951 1959 [⟨4, .last, 19800, -9000⟩, ⟨9, .last, 16200, -12600⟩],
     YearlyChange.changes 1960 1986 [⟨4, .last, 19800, -9000⟩, ⟨10, .last, 16200, -12600⟩],
     [⟨544591860, -9000⟩, ⟨562127460, -12600⟩, ⟨576041460, -5400⟩, ⟨594178260, -12600⟩],
     YearlyChange.changes 1989 2006 [⟨4, .onOrAfter 1, 12660, -9000⟩, ⟨10, .last, 9060, -12600⟩],
     YearlyChange.changes 2007 2010
       [⟨3, .onOrAfter 8, 12660, -9000⟩, ⟨11, .onOrAfter 1, 9060, -12600⟩],
     [⟨1299987060, -9000⟩, ⟨1320553800, -12600⟩],
     YearlyChange.changes 2012 2099
       [⟨3, .onOrAfter 8, 19800, -9000⟩, ⟨11, .onOrAfter 1, 16200, -12600⟩]]

/-- The offset changes of Tokyo. -/
def asiaTokyoChanges : List OffsetChange :=
  [⟨-2587712400, 32400⟩, ⟨-683802000, 36000⟩, ⟨-672310800, 32400⟩, ⟨-654771600, 36000⟩,
   ⟨-640861200, 32400⟩, ⟨-620298000, 36000⟩, ⟨-609411600, 32400⟩, ⟨-588848400, 36000⟩,
   ⟨-577962000, 32400⟩]

/-- The offset changes of Kolkata. -/
def asiaKolkataChanges : List OffsetChange :=
  [⟨-3645237208, 21200⟩, ⟨-3155694800, 19270⟩, ⟨-2019705670, 19800⟩, ⟨-891581400, 23400⟩,
   ⟨-872058600, 19800⟩, ⟨-862637400, 23400⟩, ⟨-764145000, 19800⟩]

/-- The offset changes of Kathmandu. -/
def asiaKathmanduChanges : List OffsetChange :=
  [⟨-1577943676, 19800⟩, ⟨504901800, 20700⟩]

/-- The offset changes of Lord Howe Island. -/
def australiaLordHoweChanges : List OffsetChange :=
  List.flatten
    [[⟨-2364114980, 36000⟩, ⟨352216800, 37800⟩, ⟨372785400, 41400⟩],
     YearlyChange.changes 1982 1984 [⟨3, .onOrAfter 1, -34200, 37800⟩, ⟨10, .last, -30600, 41400⟩],
     [⟨478621800, 37800⟩, ⟨499188600, 39600⟩, ⟨511282800, 37800⟩, ⟨530033400, 39600⟩],
     YearlyChange.changes 1987 1989 [⟨3, .onOrAfter 15, -32400, 37800⟩, ⟨10, .last, -30600, 39600⟩],
     YearlyChange.changes 1990 1995 [⟨3, .onOrAfter 1, -32400, 37800⟩, ⟨10, .last, -30600, 39600⟩],
     YearlyChange.changes 1996 1999 [⟨3, .last, -32400, 37800⟩, ⟨10, .last, -30600, 39600⟩],
     [⟨953996400, 37800⟩, ⟨967303800, 39600⟩],
     YearlyChange.changes 2001 2005 [⟨3, .last, -32400, 37800⟩, ⟨10, .last, -30600, 39600⟩],
     [⟨1143903600, 37800⟩, ⟨1162049400, 39600⟩, ⟨1174748400, 37800⟩, ⟨1193499000, 39600⟩],
     YearlyChange.changes 2008 2099
       [⟨4, .onOrAfter 1, -32400, 37800⟩, ⟨10, .onOrAfter 1, -30600, 39600⟩]]

/-- The offset changes of Apia. -/
def pacificApiaChanges : List OffsetChange :=
  List.flatten
    [[⟨-2445424384, -41216⟩, ⟨-1861878784, -41400⟩, ⟨-631110600, -39600⟩, ⟨1285498800, -36000⟩,
      ⟨1301752800, -39600⟩, ⟨1316872800, -36000⟩, ⟨1325239200, 50400⟩],
     YearlyChange.changes 2012 2020 [⟨4, .onOrAfter 1, -36000, 46800⟩, ⟨9, .last, -36000, 50400⟩],
     [⟨1617458400, 46800⟩]]

/-- The offset changes of Monrovia. -/
def africaMonroviaChanges : List OffsetChange :=
  [⟨-1604359012, -2670⟩, ⟨63593070, 0⟩]

/-- Coordinated universal time. -/
def utc : Zone := ⟨"UTC", 0, []⟩

/-- The known zones. -/
def database : List Zone :=
  [utc,
    ⟨"GMT", 0, []⟩,
    ⟨"Etc/GMT+5", -18000, []⟩,
    ⟨"US/Eastern", -17762, americaNewYorkChanges⟩,
    ⟨"Europe/Berlin", 3208, europeBerlinChanges⟩,
    ⟨"Europe/London", -75, europeLondonChanges⟩,
    ⟨"America/New_York", -17762, americaNewYorkChanges⟩,
    ⟨"America/Sao_Paulo", -11188, americaSaoPauloChanges⟩,
    ⟨"America/St_Johns", -12652, americaStJohnsChanges⟩,
    ⟨"Asia/Tokyo", 33539, asiaTokyoChanges⟩,
    ⟨"Asia/Kolkata", 21208, asiaKolkataChanges⟩,
    ⟨"Asia/Kathmandu", 20476, asiaKathmanduChanges⟩,
    ⟨"Australia/Lord_Howe", 38180, australiaLordHoweChanges⟩,
    ⟨"Pacific/Apia", 45184, pacificApiaChanges⟩,
    ⟨"Africa/Monrovia", -2588, africaMonroviaChanges⟩]

/-- The zone of a name; case and blanks matter. -/
def named? (name : String) : Option Zone :=
  database.find? fun z => z.name == name

end TypedFilters.Zone
