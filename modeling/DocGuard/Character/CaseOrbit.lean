/-!
# Case orbits of characters

Characters are alike under simple case folding when they fold to one character. Nearly all orbits
are pairs, and pairs come in runs: a run `a:d:n:s` stands for the pairs of `a + i·s` and
`a + i·s + d` for `i < n`. All numbers are hexadecimal.
-/

namespace DocGuard.CaseOrbit

/-- The orbits of two characters, as runs. -/
def pairRuns : String :=
  "41:20:A:1 4C:20:8:2 4D:20:3:2 55:20:3:2 C0:20:10:2 C1:20:2:2 C7:20:8:2 D9:20:3:2 DF:1DBF:1:1 " ++
    "FF:79:1:1 100:1:18:2 132:1:3:2 139:1:8:2 14A:1:17:2 179:1:3:2 180:C3:1:1 181:D2:1:1 " ++
    "182:1:2:2 186:CE:1:1 187:1:1:1 189:CD:2:1 18B:1:1:1 18E:4F:1:1 18F:CA:1:1 190:CB:1:1 " ++
    "191:1:1:1 193:CD:1:1 194:CF:1:1 195:61:1:1 196:D3:1:1 197:D1:1:1 198:1:1:1 19A:A3:1:1 " ++
    "19B:A641:1:1 19C:D3:1:1 19D:D5:1:1 19E:82:1:1 19F:D6:1:1 1A0:1:3:2 1A6:DA:1:1 1A7:1:1:1 " ++
    "1A9:DA:1:1 1AC:1:1:1 1AE:DA:1:1 1AF:1:1:1 1B1:D9:2:1 1B3:1:2:2 1B7:DB:1:1 1B8:1:1:1 " ++
    "1BC:1:1:1 1BF:38:1:1 1CD:1:8:2 1DE:1:9:2 1F4:1:1:1 1F8:1:14:2 222:1:9:2 23A:2A2B:1:1 " ++
    "23B:1:1:1 23E:2A28:1:1 23F:2A3F:2:1 241:1:1:1 244:45:1:1 245:47:1:1 246:1:5:2 250:2A1F:1:1 " ++
    "251:2A1C:1:1 252:2A1E:1:1 25C:A54F:1:1 261:A54B:1:1 264:A567:1:1 265:A528:1:1 266:A544:1:1 " ++
    "26A:A544:1:1 26B:29F7:1:1 26C:A541:1:1 271:29FD:1:1 27D:29E7:1:1 282:A543:1:1 287:A52A:1:1 " ++
    "29D:A515:1:1 29E:A512:1:1 370:1:2:2 376:1:1:1 37B:82:3:1 37F:74:1:1 386:26:1:1 388:25:3:1 " ++
    "38C:40:1:1 38E:3F:2:1 390:1C43:1:1 391:20:2:2 394:20:2:2 397:20:1:1 39B:20:3:2 39E:20:1:1 " ++
    "3A4:20:2:1 3A7:20:2:1 3AA:20:2:1 3B0:1C33:1:1 3CF:8:1:1 3D8:1:C:2 3F2:7:1:1 3F7:1:1:1 " ++
    "3FA:1:1:1 400:50:10:1 410:20:2:1 413:20:7:2 416:20:4:2 420:20:1:1 423:20:7:1 42B:20:5:1 " ++
    "460:1:1:1 464:1:F:2 48A:1:1B:2 4C0:F:1:1 4C1:1:7:2 4D0:1:30:2 531:30:26:1 10A0:1C60:26:1 " ++
    "10C7:1C60:1:1 10CD:1C60:1:1 10D0:BC0:2B:1 10FD:BC0:3:1 13A0:97D0:50:1 13F0:8:6:1 " ++
    "1C89:1:1:1 1D79:8A04:1:1 1D7D:EE6:1:1 1D8E:8A38:1:1 1E00:1:30:2 1E62:1:1A:2 1EA0:1:30:2 " ++
    "1F00:8:8:1 1F10:8:6:1 1F20:8:8:1 1F30:8:8:1 1F40:8:6:1 1F51:8:4:2 1F60:8:8:1 1F70:4A:2:1 " ++
    "1F72:56:4:1 1F76:64:2:1 1F78:80:2:1 1F7A:70:2:1 1F7C:7E:2:1 1F80:8:8:1 1F90:8:8:1 " ++
    "1FA0:8:8:1 1FB0:8:2:1 1FB3:9:1:1 1FC3:9:1:1 1FD0:8:2:1 1FE0:8:2:1 1FE5:7:1:1 1FF3:9:1:1 " ++
    "2132:1C:1:1 2160:10:10:1 2183:1:1:1 24B6:1A:1A:1 2C00:30:30:1 2C60:1:1:1 2C67:1:3:2 " ++
    "2C72:1:1:1 2C75:1:1:1 2C80:1:32:2 2CEB:1:2:2 2CF2:1:1:1 A640:1:5:2 A64C:1:11:2 A680:1:E:2 " ++
    "A722:1:7:2 A732:1:1F:2 A779:1:2:2 A77E:1:5:2 A78B:1:1:1 A790:1:2:2 A794:30:1:1 A796:1:A:2 " ++
    "A7B3:3A0:1:1 A7B4:1:8:2 A7C7:1:2:2 A7CC:1:1:1 A7D0:1:1:1 A7D6:1:3:2 A7F5:1:1:1 FB05:1:1:1 " ++
    "FF21:20:1A:1 10400:28:28:1 104B0:28:24:1 10570:27:13:2 10571:27:5:2 1057D:27:7:2 " ++
    "1058D:27:3:2 10595:27:1:1 10C80:40:33:1 10D50:20:16:1 118A0:20:20:1 16E40:20:20:1 " ++
    "1E900:22:22:1"

/-- The orbits of three and more characters. -/
def largerOrbits : String :=
  "4B:6B:212A 53:73:17F B5:39C:3BC C5:E5:212B 1C4:1C5:1C6 1C7:1C8:1C9 1CA:1CB:1CC 1F1:1F2:1F3 " ++
    "345:399:3B9:1FBE 392:3B2:3D0 395:3B5:3F5 398:3B8:3D1:3F4 39A:3BA:3F0 3A0:3C0:3D6 " ++
    "3A1:3C1:3F1 3A3:3C2:3C3 3A6:3C6:3D5 3A9:3C9:2126 412:432:1C80 414:434:1C81 41E:43E:1C82 " ++
    "421:441:1C83 422:442:1C84:1C85 42A:44A:1C86 462:463:1C87 1C88:A64A:A64B 1E60:1E61:1E9B"

end DocGuard.CaseOrbit
