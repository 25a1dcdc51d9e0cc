namespace GigListings.Calendar

/-! The clock changes of each zone that keeps a clock of its own: the offsets it has used in
seconds, then each change as the time since the one before and the letter of the new offset.
Behind the slash stand the year from which the changes recur, and for each of them the month,
the week, the weekday, the second of that day and the offset. Numbers are in base 16. -/

def zoneTable : List (String × String) := [
  ("Africa/Abidjan", "-3c8,0 -6d196db8B"),
  ("Africa/Algiers", "2dc,231,0,e10,1c20 -943664dcB 2596b52bC 9e728a1D 8fb380C e56500D 103b780C
     c9b580D 1162c80C c07b00D 11f6700C ae0600D 14c3a00C bb3500D 828480C 22470000D 59b410C
     814f20D 7b82a70E f7cbf0D e81610E dc0e60D 1fce300C 1183cb90D d8dddf0C f1c1100D cb0700C
     a8c0e10D 1a88300E efff10D 20dea60C efff10D f93990C efe2f0D"),
  ("Africa/Bissau", "-e9c,-e10,0 -6d196370B 7680c480C"),
  ("Africa/Cairo", "1d55,1c20,2a30 -8242b255B 4ad66735C 66c6f0B 1027410C caf8f0B 103c590C
     1137b70B cdb810C 11a12f0B c87210C 11a12f0B dae710C 1064c70B 15abb610C bdc9f0B 1178c10C
     c9a770B 1179a20C c87210B 11a12f0C c87210B 118c170C c87210B 118c170C c87210B 118c170C
     c87210B 11a12f0C c87210B 118c170C c87210B 118c170C c9c390B 1176ff0C c9c390B 118c170C
     c9c390B 1176ff0C c9c390B 1176ff0C c9c390B 1176ff0C c9c390B 118c170C c9c390B 1176ff0C
     c9c390B 1176ff0C c9c390B 1176ff0C c9c390B 118c170C c9c390B 1176ff0C c9c390B 1176ff0C
     c9c390B 1176ff0C c9c390B 118c170C c9c390B 1176ff0C c9c390B 1877f70C 59b410B 1765bf0C
     6ad790B 118c170C c9c390B 1176ff0C c9c390B 1176ff0C c9c390B 1176ff0C c9c390B 118c170C
     c9c390B 11e0770C c32c10B 1176ff0C c9c390B 1176ff0C c9c390B 118c170C c9c390B 1176ff0C
     c9c390B 1176ff0C c9c390B 1136d60C caf8f0B 114e910C caf8f0B 114e910C caf8f0B 114e910C
     caf8f0B 11e2390C caf8f0B 114e910C caf8f0B 114e910C caf8f0B 114e910C caf8f0B 114e910C
     caf8f0B 11e2390C caf8f0B 114e910C caf8f0B 114e910C c1be70B 11e2390C af4970B 1309890C
     a60ef0B 139d310C 9cd470B 14c4810C 87bc70B 279b10C 1ba170B 6d03e90C 3750f0B 2e3290C 49c5f0B
     / 7e7 4 5 5 -1c20 2a30 a 5 4 12750 1c20"),
  ("Africa/Casablanca", "-71c,0,e10 -69ae0664B 30ad1ae4C 5997f0B 814110C ac74570B 8947110C
     b883f0B 1f374a50C 9d7d30B ca89510C 5ae970B 3219e10C 793bf0B 167f790C c5b2f0B 1445f10C
     5451f0B a900290C 360c9f0B 2a297690C 793bf0B 167f790C 6abb70B 14eeb10C 8124f0B 139d310C
     9cd470B 16813b0C 6c1b00B 28de80C 360d80B 114db00C 5c4900B 2cd300C 66d500B cb0700C 76a700B
     2e2480C 700f80B cb0700C 658380B 2e2480C 813300B cb0700C 5c4900B 2e2480C 93a800B c1cc80C
     49d400B 375f00C 9ce280B c1cc80C 409980B 2e2480C 1a88300B 2e2480C 19f4880B 375f00C 19f4880B
     2e2480C 19f4880B 375f00C 19f4880B 2e2480C 1a88300B 2e2480C 19f4880B 375f00C 19f4880B
     2e2480C 1a88300B 2e2480C 19f4880B 375f00C 19f4880B 2e2480C 19f4880B 375f00C 19f4880B
     2e2480C 1a88300B 2e2480C 19f4880B 375f00C 19f4880B 2e2480C 19f4880B 375f00C 19f4880B
     375f00C 19f4880B 2e2480C 19f4880B 375f00C 19f4880B 2e2480C 1a88300B 2e2480C 19f4880B
     375f00C 19f4880B 2e2480C 19f4880B 375f00C 19f4880B 375f00C 19f4880B 2e2480C 19f4880B
     375f00C 19f4880B 2e2480C 1a88300B 2e2480C 19f4880B 375f00C 19f4880B 2e2480C 19f4880B
     375f00C 19f4880B 375f00C 19f4880B 2e2480C 19f4880B 375f00C 19f4880B 2e2480C 1a88300B
     2e2480C 19f4880B 375f00C 19f4880B 2e2480C 19f4880B 375f00C 19f4880B 375f00C 19f4880B
     2e2480C 19f4880B 375f00C 19f4880B 2e2480C 1a88300B 2e2480C 19f4880B 375f00C 19f4880B
     2e2480C 19f4880B 375f00C 19f4880B 375f00C 19f4880B 2e2480C 19f4880B 375f00C 19f4880B
     2e2480C 1a88300B 2e2480C 19f4880B 375f00C 19f4880B 2e2480C 19f4880B 375f00C 19f4880B
     375f00C 19f4880B 2e2480C 19f4880B 375f00C 19f4880B 2e2480C 1a88300B 2e2480C 19f4880B
     375f00C 19f4880B 2e2480C 19f4880B 375f00C 19f4880B 2e2480C 1a88300B 2e2480C 19f4880B
     375f00C 19f4880B 2e2480C 1a88300B 2e2480C 19f4880B 375f00C"),
  ("Africa/Ceuta", "-4fc,0,e10,1c20 -81c94b00B 209fc070C caf8f0B a648110C e17e90B 2e239f0C
     dd8a10B f91d70C e6c490B 1026600C e6b680B 48b541c0C 9d7d30B ca89510C 5ae970B 3219e10C
     793bf0B 167f790C c5b2f0B 1445f10C 5451f0B a900290C 3d4ea10D eff100C eff100D eff100C eff100D
     eff100C eff100D eff100C eff100D f92b80C eff100D eff100C eff100D eff100C eff100D eff100C
     eff100D eff100C eff100D eff100C / 7cc 3 5 0 e10 1c20 a 5 0 e10 e10"),
  ("Africa/El_Aaiun", "-c60,-e10,0,e10 -43b70f20B 4f88bfb0C 165b70D 793bf0C 167f790D c5b2f0C
     1445f10D 5451f0C 381a4310D 793bf0C 167f790D 6abb70C 14eeb10D 8124f0C 139d310D 9cd470C
     16813b0D 6c1b00C 28de80D 360d80C 114db00D 5c4900C 2cd300D 66d500C cb0700D 76a700C 2e2480D
     700f80C cb0700D 658380C 2e2480D 813300C cb0700D 5c4900C 2e2480D 93a800C c1cc80D 49d400C
     375f00D 9ce280C c1cc80D 409980C 2e2480D 1a88300C 2e2480D 19f4880C 375f00D 19f4880C 2e2480D
     19f4880C 375f00D 19f4880C 2e2480D 1a88300C 2e2480D 19f4880C 375f00D 19f4880C 2e2480D
     1a88300C 2e2480D 19f4880C 375f00D 19f4880C 2e2480D 19f4880C 375f00D 19f4880C 2e2480D
     1a88300C 2e2480D 19f4880C 375f00D 19f4880C 2e2480D 19f4880C 375f00D 19f4880C 375f00D
     19f4880C 2e2480D 19f4880C 375f00D 19f4880C 2e2480D 1a88300C 2e2480D 19f4880C 375f00D
     19f4880C 2e2480D 19f4880C 375f00D 19f4880C 375f00D 19f4880C 2e2480D 19f4880C 375f00D
     19f4880C 2e2480D 1a88300C 2e2480D 19f4880C 375f00D 19f4880C 2e2480D 19f4880C 375f00D
     19f4880C 375f00D 19f4880C 2e2480D 19f4880C 375f00D 19f4880C 2e2480D 1a88300C 2e2480D
     19f4880C 375f00D 19f4880C 2e2480D 19f4880C 375f00D 19f4880C 375f00D 19f4880C 2e2480D
     19f4880C 375f00D 19f4880C 2e2480D 1a88300C 2e2480D 19f4880C 375f00D 19f4880C 2e2480D
     19f4880C 375f00D 19f4880C 375f00D 19f4880C 2e2480D 19f4880C 375f00D 19f4880C 2e2480D
     1a88300C 2e2480D 19f4880C 375f00D 19f4880C 2e2480D 19f4880C 375f00D 19f4880C 375f00D
     19f4880C 2e2480D 19f4880C 375f00D 19f4880C 2e2480D 1a88300C 2e2480D 19f4880C 375f00D
     19f4880C 2e2480D 19f4880C 375f00D 19f4880C 2e2480D 1a88300C 2e2480D 19f4880C 375f00D
     19f4880C 2e2480D 1a88300C 2e2480D 19f4880C 375f00D"),
  ("Africa/Johannesburg", "1a40,1518,1c20,2a30 -9284bec0B 14cb8e28C 4a67bd18D efe2f0C efff10D
     efe2f0C"),
  ("Africa/Juba", "1da4,1c20,2a30 -495c2524B 49fa3d04C dc1c70B 103c590C dd6df0B 1051710C dd6df0B
     1027410C debf70B 1012290C e010f0B ffd110C e16270B fe7f90C e40570B fbdc90C e556f0B 103c590C
     dd6df0B 1027410C debf70B 1012290C e16270B fe7f90C e2b3f0B fd2e10C e40570B fbdc90C e556f0B
     103c590C debf70B 1012290C e010f0B 1acec650C 2796d530B"),
  ("Africa/Khartoum", "1e80,1c20,2a30 -495c2600B 49fa3de0C dc1c70B 103c590C dd6df0B 1051710C
     dd6df0B 1027410C debf70B 1012290C e010f0B ffd110C e16270B fe7f90C e40570B fbdc90C e556f0B
     103c590C dd6df0B 1027410C debf70B 1012290C e16270B fe7f90C e2b3f0B fd2e10C e40570B fbdc90C
     e556f0B 103c590C debf70B 1012290C e010f0B 1acec650C 21789f30B"),
  ("Africa/Lagos", "32f,0,708,e10 -79548f2fB 5a4ef2fA a59e3d1C aa7aba7D"),
  ("Africa/Maputo", "1e8a,1c20 -72bd2a8aB"),
  ("Africa/Monrovia", "-a1c,-a6e,0 -5fa09364B 636aedd2C"),
  ("Africa/Nairobi", "2284,2328,2a30,26ac -74002e04B 25ef085cC 2d90678B d25cc88D a7ecd7cC"),
  ("Africa/Ndjamena", "e1c,e10,1c20 -6d197f9cB 7f7ff10cC c06cf0B"),
  ("Africa/Sao_Tome", "650,-89d,0,e10 -a1c302d0B 34a99150C c762f990D 1e13380C"),
  ("Africa/Tripoli", "c5c,e10,1c20 -5e0d3edcB 3bc8efecC 67fc50B 35524b0C 6e93d0B 347d990C
     7a8d70B 5a4fa10C 2b437b70B 76b510C f13470B efff10C f13470B f15090C f13470B f69690C ea9cf0B
     f3f390C efe2f0B ed5c10C f13470B f15090C f13470B efff10C f13470B 11b8090C c0e3970B f54510C
     1d596290B b74080C"),
  ("Africa/Tunis", "98c,231,e10,1c20 -a6b9ec0cB 381a3c5bC 34da3891D 11e1580C 828480D 3073200C
     cb1510D 139e120C c1cc80D 18fe70C a9a10D d584f0C efff10D f7afd0C e83230D dc0050C 3b79c990D
     c1cc80C 120b880D c9b580C 122f2080D 98ee00C eff100D eff100C 120b880D c86400C 1b6ee680D
     c87210C e96790D 11e1580C c1cc80D 11e1580C cb0700D 114db00C"),
  ("Africa/Windhoek", "1008,1518,1c20,2a30,e10 -9284b488B 14cb83f0C 4a67bd18D efe2f0C 5fee57f0E
     dc54b0C 114ccf0E cb1510C 11e0770E c1da90C 11e0770E cb1510C 114ccf0E cb1510C 114ccf0E
     cb1510C 114ccf0E cb1510C 114ccf0E cb1510C 11e0770E c1da90C 11e0770E cb1510C 114ccf0E
     cb1510C 114ccf0E cb1510C 114ccf0E cb1510C 114ccf0E cb1510C 11e0770E cb1510C 114ccf0E
     cb1510C 114ccf0E cb1510C 114ccf0E cb1510C 114ccf0E cb1510C 11e0770E c1da90C 11e0770E
     cb1510C 114ccf0E cb1510C 114ccf0E cb1510C 114ccf0E cb1510C"),
  ("America/Adak", "abe2,-a59e,-9ab0,-8ca0,-7e90 -c03d022fB 3dc45c8dC 4e01ea72D 6d80b70C
     2c572110D efe2f0C efff10D efe2f0C efff10D f91d70C efff10D efe2f0C efff10D efe2f0C 5c5710D
     1838af0C 9cf090D 142f170C efff10D f91d70C e6c490D f91d70C efff10D efe2f0C efff10D efe2f0C
     efff10D efe2f0C efff10D efe2f0C efff10D f91d70C e6c490D 1e90e70E efe2f0D efff10E efe2f0D
     efff10E efe2f0D d44f90E 10b9270D d44f90E 114ccf0D cb1510E 114ccf0D cb1510E 114ccf0D d44f90E
     10b9270D d44f90E 10b9270D d44f90E 114ccf0D cb1510E 114ccf0D cb1510E 114ccf0D d44f90E
     10b9270D d44f90E 10b9270D d44f90E 10b9270D d44f90E 114ccf0D cb1510E 114ccf0D cb1510E
     114ccf0D d44f90E 10b9270D d44f90E 10b9270D d44f90E 114ccf0D cb1510E 114ccf0D cb1510E
     114ccf0D / 7d7 3 2 0 a8c0 -7e90 b 1 0 9ab0 -8ca0"),
  ("America/Anchorage", "c4f8,-8c88,-8ca0,-7e90,-7080 -c03d022fB 3dc44377C 4e01f578D 6d80b70C
     2c572110D efe2f0C efff10D efe2f0C efff10D f91d70C efff10D efe2f0C efff10D efe2f0C 5c5710D
     1838af0C 9cf090D 142f170C efff10D f91d70C e6c490D f91d70C efff10D efe2f0C efff10D efe2f0C
     efff10D efe2f0C efff10D efe2f0C efff10D f91d70C e6c490D 1e90e70E efe2f0D efff10E efe2f0D
     efff10E efe2f0D d44f90E 10b9270D d44f90E 114ccf0D cb1510E 114ccf0D cb1510E 114ccf0D d44f90E
     10b9270D d44f90E 10b9270D d44f90E 114ccf0D cb1510E 114ccf0D cb1510E 114ccf0D d44f90E
     10b9270D d44f90E 10b9270D d44f90E 10b9270D d44f90E 114ccf0D cb1510E 114ccf0D cb1510E
     114ccf0D d44f90E 10b9270D d44f90E 10b9270D d44f90E 114ccf0D cb1510E 114ccf0D cb1510E
     114ccf0D / 7d7 3 2 0 9ab0 -7080 b 1 0 8ca0 -7e90"),
  ("America/Araguaina", "-2d30,-2a30,-1c20 -69558bd0B 2164d5b0C edf6c0B f3f390C ed3ff0B
     1f5a3a10C b34c00B 12de780C 9f7770B 141bc10C a0c8f0B 141bc10C 7698f0B 1443cc90C 6d5e70B
     1bb0610C 4dba70B 1430d90C 7698f0B 1430d90C 9e25f0B 1430d90C 9f7770B 213e1090C af4970B
     1275e10C 9399f0B 14d9990C 8a5f70B 14c4810C 8a5f70B 1558290C 9cd470B aabb210C 9cd470B
     139d310C af4970B 131ea10C c06cf0B 1275e10C af4970B 1275e10C c1be70B 1275e10C af4970B
     139d310C a60ef0B 1558290C 8a5f70B 12347490C 9cd470B"),
  ("America/Argentina/Buenos_Aires", "-36cc,-3c30,-3840,-2a30,-1c20 -8d6357b4B 2ff5e6e4C
     13e8c310D 9f7770C 103c590D b5e0f0C 1430d90D 9e25f0C 1430d90D 9e25f0C 1430d90D 9e25f0C
     1430d90D 9f7770C 1430d90D 9e25f0C 1430d90D 9e25f0C 1430d90D 9e25f0C 1430d90D 9f7770C
     a0e510D 1cc0d70C a0e510D 35f7870C 62ee90D 47847f0C 11a2f10D 1ff9a370C 62ee90D 657570C
     12ca410D b48f70C 12ca410D b48f70C 12ca410D debf70C efff10D f91d70C efff10D efe2f0C efff10D
     8171670E 8124f0D 1b704610E 7bdef0D 1275e10E b883f0D 1309890E af4970D 1309890E af4970D
     1309890E b883f0D 1bddb290E 657570D 11e2390E c1be70D"),
  ("America/Argentina/Catamarca", "-3dac,-3c30,-3840,-2a30,-1c20 -8d6350d4B 2ff5e004C 13e8c310D
     9f7770C 103c590D b5e0f0C 1430d90D 9e25f0C 1430d90D 9e25f0C 1430d90D 9e25f0C 1430d90D
     9f7770C 1430d90D 9e25f0C 1430d90D 9e25f0C 1430d90D 9e25f0C 1430d90D 9f7770C a0e510D
     1cc0d70C a0e510D 35f7870C 62ee90D 47847f0C 11a2f10D 1ff9a370C 62ee90D 657570C 12ca410D
     b48f70C 12ca410D b48f70C 12ca410D debf70C efff10D f91d70C efff10D efe2f0C efff10D 8171670E
     8124f0D 1b704610E 7bdef0D 1275e10E b883f0D 1309890E af4970C 130a6a0E af3b60D 1309890E
     b883f0D 15229a10C 191a90D 6a1fdf0E 657570D"),
  ("America/Argentina/Cordoba", "-3c30,-3840,-2a30,-1c20 -5d6d70d0B 13e8c310C 9f7770B 103c590C
     b5e0f0B 1430d90C 9e25f0B 1430d90C 9e25f0B 1430d90C 9e25f0B 1430d90C 9f7770B 1430d90C
     9e25f0B 1430d90C 9e25f0B 1430d90C 9e25f0B 1430d90C 9f7770B a0e510C 1cc0d70B a0e510C
     35f7870B 62ee90C 47847f0B 11a2f10C 1ff9a370B 62ee90C 657570B 12ca410C b48f70B 12ca410C
     b48f70B 12ca410C debf70B efff10C f91d70B efff10C efe2f0B efff10C 8171670D 8124f0C 1b704610D
     7bdef0C 1275e10D b883f0C 1309890D af4970B 130a6a0D af3b60C 1309890D b883f0C 1bddb290D
     657570C 11e2390D c1be70C"),
  ("America/Argentina/Jujuy", "-3d38,-3c30,-3840,-2a30,-1c20 -8d635148B 2ff5e078C 13e8c310D
     9f7770C 103c590D b5e0f0C 1430d90D 9e25f0C 1430d90D 9e25f0C 1430d90D 9e25f0C 1430d90D
     9f7770C 1430d90D 9e25f0C 1430d90D 9e25f0C 1430d90D 9e25f0C 1430d90D 9f7770C a0e510D
     1cc0d70C a0e510D 35f7870C 62ee90D 47847f0C 11a2f10D 1ff9a370C 62ee90D 657570C 12ca410D
     b48f70C 12ca410D b48f70C 12ca410D debf70C efff10D f91d70C efff10D efe2f0C efff10D 8171670E
     8124f0D 1b704610E 7bdef0D 1275e10E b883f0C 139e120D b883f0C 10bae90E c1b060D 1309890E
     b883f0D 1bddb290E 657570D"),
  ("America/Argentina/La_Rioja", "-3eac,-3c30,-3840,-2a30,-1c20 -8d634fd4B 2ff5df04C 13e8c310D
     9f7770C 103c590D b5e0f0C 1430d90D 9e25f0C 1430d90D 9e25f0C 1430d90D 9e25f0C 1430d90D
     9f7770C 1430d90D 9e25f0C 1430d90D 9e25f0C 1430d90D 9e25f0C 1430d90D 9f7770C a0e510D
     1cc0d70C a0e510D 35f7870C 62ee90D 47847f0C 11a2f10D 1ff9a370C 62ee90D 657570C 12ca410D
     b48f70C 12ca410D b48f70C 12ca410D debf70C efff10D f91d70C efff10D efe2f0C efff10D 8171670E
     8124f0D 1b704610E 7bdef0D 1275e10E b883f0D 1309890E aca670C 5870a0D dacaf0E af4970D
     1309890E b883f0D 15229a10C 191a90D 6a1fdf0E 657570D"),
  ("America/Argentina/Mendoza", "-4084,-3c30,-3840,-2a30,-1c20 -8d634dfcB 2ff5dd2cC 13e8c310D
     9f7770C 103c590D b5e0f0C 1430d90D 9e25f0C 1430d90D 9e25f0C 1430d90D 9e25f0C 1430d90D
     9f7770C 1430d90D 9e25f0C 1430d90D 9e25f0C 1430d90D 9e25f0C 1430d90D 9f7770C a0e510D
     1cc0d70C a0e510D 35f7870C 62ee90D 47847f0C 11a2f10D 1ff9a370C 62ee90D 657570C 12ca410D
     b48f70C 12ca410D b48f70C 12ca410D debf70C efff10D f91d70C efff10D efe2f0C efff10D 8171670E
     8124f0D 1b704610E 7bdef0D 1275e10E b883f0C 128bda0D b48f70C 12ca410D b5e0f0C 1309890E
     b875e0D 1516bc90C a62b10D 620caf0E 657570D"),
  ("America/Argentina/Rio_Gallegos", "-40e4,-3c30,-3840,-2a30,-1c20 -8d634d9cB 2ff5dcccC
     13e8c310D 9f7770C 103c590D b5e0f0C 1430d90D 9e25f0C 1430d90D 9e25f0C 1430d90D 9e25f0C
     1430d90D 9f7770C 1430d90D 9e25f0C 1430d90D 9e25f0C 1430d90D 9e25f0C 1430d90D 9f7770C
     a0e510D 1cc0d70C a0e510D 35f7870C 62ee90D 47847f0C 11a2f10D 1ff9a370C 62ee90D 657570C
     12ca410D b48f70C 12ca410D b48f70C 12ca410D debf70C efff10D f91d70C efff10D efe2f0C efff10D
     8171670E 8124f0D 1b704610E 7bdef0D 1275e10E b883f0D 1309890E af4970D 1309890E af4970D
     1309890E b883f0D 15229a10C 191a90D 6a1fdf0E 657570D"),
  ("America/Argentina/Salta", "-3d54,-3c30,-3840,-2a30,-1c20 -8d63512cB 2ff5e05cC 13e8c310D
     9f7770C 103c590D b5e0f0C 1430d90D 9e25f0C 1430d90D 9e25f0C 1430d90D 9e25f0C 1430d90D
     9f7770C 1430d90D 9e25f0C 1430d90D 9e25f0C 1430d90D 9e25f0C 1430d90D 9f7770C a0e510D
     1cc0d70C a0e510D 35f7870C 62ee90D 47847f0C 11a2f10D 1ff9a370C 62ee90D 657570C 12ca410D
     b48f70C 12ca410D b48f70C 12ca410D debf70C efff10D f91d70C efff10D efe2f0C efff10D 8171670E
     8124f0D 1b704610E 7bdef0D 1275e10E b883f0D 1309890E af4970C 130a6a0E af3b60D 1309890E
     b883f0D 1bddb290E 657570D"),
  ("America/Argentina/San_Juan", "-403c,-3c30,-3840,-2a30,-1c20 -8d634e44B 2ff5dd74C 13e8c310D
     9f7770C 103c590D b5e0f0C 1430d90D 9e25f0C 1430d90D 9e25f0C 1430d90D 9e25f0C 1430d90D
     9f7770C 1430d90D 9e25f0C 1430d90D 9e25f0C 1430d90D 9e25f0C 1430d90D 9f7770C a0e510D
     1cc0d70C a0e510D 35f7870C 62ee90D 47847f0C 11a2f10D 1ff9a370C 62ee90D 657570C 12ca410D
     b48f70C 12ca410D b48f70C 12ca410D debf70C efff10D f91d70C efff10D efe2f0C efff10D 8171670E
     8124f0D 1b704610E 7bdef0D 1275e10E b883f0D 1309890E aca670C 5870a0D dacaf0E af4970D
     1309890E b883f0D 15214890C 489090D 673d970E 657570D"),
  ("America/Argentina/San_Luis", "-3e34,-3c30,-3840,-2a30,-1c20 -8d63504cB 2ff5df7cC 13e8c310D
     9f7770C 103c590D b5e0f0C 1430d90D 9e25f0C 1430d90D 9e25f0C 1430d90D 9e25f0C 1430d90D
     9f7770C 1430d90D 9e25f0C 1430d90D 9e25f0C 1430d90D 9e25f0C 1430d90D 9f7770C a0e510D
     1cc0d70C a0e510D 35f7870C 62ee90D 47847f0C 11a2f10D 1ff9a370C 62ee90D 657570C 12ca410D
     b48f70C 12ca410D b48f70C 12ca410D debf70C efff10D f91d70C efff10D efe2f0C efff10D 8171670E
     8124f0D 1b704610E 7bdef0D 1275e10E c5b2f0C 11b8ea0D b48f70C 795810D 187383f0C 489090D
     673d970E 1cf2f0D 3f5610C 11e2390D c1be70C 11e2390D"),
  ("America/Argentina/Tucuman", "-3d24,-3c30,-3840,-2a30,-1c20 -8d63515cB 2ff5e08cC 13e8c310D
     9f7770C 103c590D b5e0f0C 1430d90D 9e25f0C 1430d90D 9e25f0C 1430d90D 9e25f0C 1430d90D
     9f7770C 1430d90D 9e25f0C 1430d90D 9e25f0C 1430d90D 9e25f0C 1430d90D 9f7770C a0e510D
     1cc0d70C a0e510D 35f7870C 62ee90D 47847f0C 11a2f10D 1ff9a370C 62ee90D 657570C 12ca410D
     b48f70C 12ca410D b48f70C 12ca410D debf70C efff10D f91d70C efff10D efe2f0C efff10D 8171670E
     8124f0D 1b704610E 7bdef0D 1275e10E b883f0D 1309890E af4970C 130a6a0E af3b60D 1309890E
     b883f0D 15229a10C fe010D 6ab3870E 657570D 11e2390E c1be70D"),
  ("America/Argentina/Ushuaia", "-4008,-3c30,-3840,-2a30,-1c20 -8d634e78B 2ff5dda8C 13e8c310D
     9f7770C 103c590D b5e0f0C 1430d90D 9e25f0C 1430d90D 9e25f0C 1430d90D 9e25f0C 1430d90D
     9f7770C 1430d90D 9e25f0C 1430d90D 9e25f0C 1430d90D 9e25f0C 1430d90D 9f7770C a0e510D
     1cc0d70C a0e510D 35f7870C 62ee90D 47847f0C 11a2f10D 1ff9a370C 62ee90D 657570C 12ca410D
     b48f70C 12ca410D b48f70C 12ca410D debf70C efff10D f91d70C efff10D efe2f0C efff10D 8171670E
     8124f0D 1b704610E 7bdef0D 1275e10E b883f0D 1309890E af4970D 1309890E af4970D 1309890E
     b883f0D 151ff710C 1bbd90D 6a1fdf0E 657570D"),
  ("America/Asuncion", "-3610,-3840,-2a30 -47e80a70B 4d13e4b0C 2d11670B 2d28410C c855f0B
     11a2f10C c70470B 11a2f10C c70470B 11a2f10C efe2f0B f15090C f13470B f15090C efe2f0B f15090C
     efe2f0B f15090C efe2f0B f15090C f13470B f15090C efe2f0B f15090C efe2f0B f15090C efe2f0B
     f15090C f13470B f15090C efe2f0B 10d0010C d43370B f15090C efe2f0B f7e810C c1be70B 11f7510C
     e94b70B f2a210C c46170B 11cd210C c30ff0B 11e2390C c855f0B 120c690C b883f0B 1275e10C c1be70B
     11e2390C caf8f0B 114e910C caf8f0B 114e910C caf8f0B 11e2390C efe2f0B c1da90C 11e0770B
     cb1510C 114ccf0B 1027410C c1be70B 11e2390C c1be70B 11e2390C c1be70B 1275e10C b883f0B
     1275e10C b883f0B 1275e10C e6a870B e6c490C f91d70B e6c490C f91d70B efff10C / 7dd 3 4 0 2a30
     -3840 a 1 0 3840 -2a30"),
  ("America/Bahia", "-241c,-2a30,-1c20 -695594e4B 2164dec4C edf6c0B f3f390C ed3ff0B 1f5a3a10C
     b34c00B 12de780C 9f7770B 141bc10C a0c8f0B 141bc10C 7698f0B 1443cc90C 6d5e70B 1bb0610C
     4dba70B 1430d90C 7698f0B 1430d90C 9e25f0B 1430d90C 9f7770B 213e1090C af4970B 1275e10C
     9399f0B 14d9990C 8a5f70B 14c4810C 8a5f70B 1558290C 9cd470B 14c4810C 9cd470B 1430d90C
     9399f0B 1558290C 8124f0B 1558290C a60ef0B 139d310C a60ef0B 139d310C 9cd470B 139d310C
     af4970B 131ea10C c06cf0B 1275e10C af4970B 1275e10C c1be70B 1275e10C af4970B 139d310C
     a60ef0B 1558290C 8a5f70B 104b5810C af4970B"),
  ("America/Bahia_Banderas", "-62ac,-6270,-5460,-4650 -5a491790B a3a4300C 6752af0B dae710C
     caf8f0B f15090C 12ecea70B 657d12b0C 10b9270B d44f90C 10b9270B d44f90C 10b9270B d44f90C
     114ccf0B cb1510C 114ccf0B f93990C c1be70B f93990C 10b9270B d44f90C 10b9270B d44f90C
     114ccf0B cb1510C 114ccf0B cb1510C 114ccf0B cb1510C 114ccf0B d44f90C 10b9270B d44f90C
     10b9270B d44f90D 114bee0C cb1510D 114ccf0C cb1510D 114ccf0C d44f90D 10b9270C d44f90D
     10b9270C d44f90D 10b9270C d44f90D 114ccf0C cb1510D 114ccf0C cb1510D 114ccf0C d44f90D
     10b9270C d44f90D 10b9270C d44f90D 114ccf0C cb1510D 114ccf0C"),
  ("America/Barbados", "-37e5,-3840,-2a30,-3138 -6dbf569bB 39a3226bC b0b710B 1419ff0C a62b10B
     11f58f0D c9c390B 3d9b8880C 9399f0B 1027410C dd6df0B 1027410C dd6df0B 10bae90C d03ef0B"),
  ("America/Belem", "-2d74,-2a30,-1c20 -69558b8cB 2164d56cC edf6c0B f3f390C ed3ff0B 1f5a3a10C
     b34c00B 12de780C 9f7770B 141bc10C a0c8f0B 141bc10C 7698f0B 1443cc90C 6d5e70B 1bb0610C
     4dba70B 1430d90C 7698f0B 1430d90C 9e25f0B 1430d90C 9f7770B 213e1090C af4970B 1275e10C
     9399f0B 14d9990C 8a5f70B"),
  ("America/Belize", "-52b0,-5460,-4d58,-4650 -6ca12650B c406230C a615f8B 139cc08C af5078B
     1309188C af5078B 1309188C af5078B 139cc08C a615f8B 139cc08C a615f8B 139cc08C af5078B
     1309188C af5078B 1309188C af5078B 1309188C af5078B 139cc08C a615f8B 139cc08C a615f8B
     139cc08C af5078B 1309188C af5078B 1309188C af5078B 139cc08C a615f8B 139cc08C a615f8B
     139cc08C a615f8B 139cc08C af5078B 1309188C af5078B 1309188C af5078B 139cc08C a615f8B
     139cc08C a615f8B 139cc08C af5078B af5e88D 6864e70B 3638910C af5078B 1309188C af5078B
     1309188C af5078B 139cc08C a615f8B 139cc08C a615f8B 139cc08C af5078B 1309188C af5078B
     1309188C af5078B 1309188C af5078B 139cc08C a615f8B 139cc08C a615f8B 139cc08C af5078B
     1309188C af5078B 1309188C af5078B 139cc08C a615f8B 139cc08C a615f8B 139cc08C a615f8B
     139cc08C af5078B 1309188C af5078B 1309188C af5078B 139cc08C a615f8B af03908D 56f4f0B
     10a7a110D 49c5f0B"),
  ("America/Boa_Vista", "-38e0,-3840,-2a30 -69558020B 2164d810C edf6c0B f3f390C ed3ff0B
     1f5a3a10C b34c00B 12de780C 9f7770B 141bc10C a0c8f0B 141bc10C 7698f0B 1443cc90C 6d5e70B
     1bb0610C 4dba70B 1430d90C 7698f0B 1430d90C 9e25f0B 1430d90C 9f7770B 213e1090C af4970B
     1275e10C 9399f0B 14d9990C 8a5f70B 15eafe10C c1be70B 1275e10C 92c70B"),
  ("America/Bogota", "-4570,-4650,-3840 -67a7aa90B 91ab1de0C 17115f0B"),
  ("America/Boise", "-6cf1,-7080,-6270,-5460 -a1fbe540B 40a22de0C 114ccf0B cb1510C 114ccf0B
     6ab5490C 2342c070D 6d80b70C 28975d10D efe2f0C efff10D efe2f0C efff10D efe2f0C efff10D
     efe2f0C efff10D f91d70C efff10D efe2f0C efff10D efe2f0C 814110D 15ea0f0C 9cf090D 142f170C
     efff10D f91d70C e6c490D f91d70C efff10D efe2f0C efff10D efe2f0C efff10D efe2f0C efff10D
     efe2f0C efff10D f91d70C e6c490D f91d70C efff10D efe2f0C efff10D efe2f0C efff10D efe2f0C
     d44f90D 10b9270C d44f90D 114ccf0C cb1510D 114ccf0C cb1510D 114ccf0C d44f90D 10b9270C
     d44f90D 10b9270C d44f90D 114ccf0C cb1510D 114ccf0C cb1510D 114ccf0C d44f90D 10b9270C
     d44f90D 10b9270C d44f90D 10b9270C d44f90D 114ccf0C cb1510D 114ccf0C cb1510D 114ccf0C
     d44f90D 10b9270C d44f90D 10b9270C d44f90D 114ccf0C cb1510D 114ccf0C cb1510D 114ccf0C / 7d7
     3 2 0 7e90 -5460 b 1 0 7080 -6270"),
  ("America/Cambridge_Bay", "0,-6270,-5460,-4650 -5e0d3280B 29963f10C 6d80b70B 32000190C efe2f0B
     efff10C efe2f0B efff10C efe2f0B efff10C efe2f0B efff10C f91d70B e6c490C f91d70B efff10C
     efe2f0B efff10C efe2f0B efff10C efe2f0B efff10C efe2f0B efff10C f91d70B e6c490C f91d70B
     efff10C efe2f0B efff10C efe2f0B efff10C efe2f0B d44f90C 10b9270B d44f90C 114ccf0B cb1510C
     114ccf0B cb1510C 114ccf0B d44f90C 10b9270B d44f90C 10b9270B d44f90C 114ccf0B cb1510C
     114ccf0B cb1510C 114ccf0B d44f90C 10b9270B d44f90C 10b9270B d44f90C 10b9270B d44f90C
     1dfd3f0D 11deb50C 1d6d1b0B d44f90C 10b9270B d44f90C 10b9270B d44f90C 114ccf0B cb1510C
     114ccf0B cb1510C 114ccf0B / 7d7 3 2 0 7e90 -5460 b 1 0 7080 -6270"),
  ("America/Campo_Grande", "-3334,-3840,-2a30 -695585ccB 2164ddbcC edf6c0B f3f390C ed3ff0B
     1f5a3a10C b34c00B 12de780C 9f7770B 141bc10C a0c8f0B 141bc10C 7698f0B 1443cc90C 6d5e70B
     1bb0610C 4dba70B 1430d90C 7698f0B 1430d90C 9e25f0B 1430d90C 9f7770B 213e1090C af4970B
     1275e10C 9399f0B 14d9990C 8a5f70B 14c4810C 8a5f70B 1558290C 9cd470B 14c4810C 9cd470B
     1430d90C 9399f0B 1558290C 8124f0B 1558290C a60ef0B 139d310C a60ef0B 139d310C 9cd470B
     139d310C af4970B 131ea10C c06cf0B 1275e10C af4970B 1275e10C c1be70B 1275e10C af4970B
     139d310C a60ef0B 1558290C 8a5f70B 1430d90C 9cd470B 1582590C 90f6f0B 139d310C a60ef0B
     1558290C 9399f0B 1309890C a60ef0B 1430d90C 9cd470B 1430d90C a60ef0B 139d310C a60ef0B
     139d310C af4970B 139d310C 9cd470B 1430d90C 9cd470B 1430d90C a60ef0B 139d310C a60ef0B
     139d310C a60ef0B 139d310C a60ef0B 1558290C 8a5f70B"),
  ("America/Cancun", "-5158,-5460,-4650,-3840 -5a4925a0B 70d40ba0C 1ece6d0B 18efa930C 10b9270B
     d44f90C 1dfd3f0D 9cd470C 6ecc10B d44f90C 114ccf0B cb1510C 114ccf0B f93990C c1be70B f93990C
     10b9270B d44f90C 10b9270B d44f90C 114ccf0B cb1510C 114ccf0B cb1510C 114ccf0B cb1510C
     114ccf0B d44f90C 10b9270B d44f90C 10b9270B d44f90C 114ccf0B cb1510C 114ccf0B cb1510C
     114ccf0B d44f90C 10b9270B d44f90C 10b9270B 814110C"),
  ("America/Caracas", "-3ec0,-3ebc,-3f48,-3840 -9678e5c0B 299711fcC 637ac00cD 50c2a628C fca1700D"),
  ("America/Cayenne", "-3110,-3840,-2a30 -6e0bd470B 69cf0a30C"),
  ("America/Chicago", "-522c,-5460,-4650 -a1fc0160B 40a22de0C 114ccf0B cb1510C 114ccf0B 1309890C
     b883f0B c1da90C 11e0770B efff10C c1be70B 11e2390C caf8f0B 114e910C caf8f0B 114e910C caf8f0B
     114e910C caf8f0B 114e910C caf8f0B 11e2390C caf8f0B 114e910C caf8f0B 114e910C caf8f0B
     114e910C caf8f0B 114e910C caf8f0B 11e2390C c1be70B 11e2390C caf8f0B 114e910C caf8f0B
     cb1510C 1556670B d44f90C caf8f0B 114e910C caf8f0B 11e2390C c1be70B 11e2390C caf8f0B
     114e910C caf8f0B b0b710C 6d80b70B 114e910C caf8f0B 114e910C caf8f0B 114e910C caf8f0B
     114e910C caf8f0B 11e2390C c1be70B 11e2390C caf8f0B 114e910C caf8f0B 114e910C caf8f0B
     114e910C caf8f0B 114e910C f91d70B efff10C efe2f0B efff10C efe2f0B efff10C efe2f0B efff10C
     efe2f0B efff10C f91d70B efff10C efe2f0B efff10C efe2f0B efff10C efe2f0B efff10C efe2f0B
     efff10C f91d70B e6c490C f91d70B efff10C efe2f0B efff10C efe2f0B efff10C efe2f0B efff10C
     efe2f0B efff10C f91d70B efff10C efe2f0B efff10C efe2f0B 5c5710C 1838af0B 9cf090C 142f170B
     efff10C f91d70B e6c490C f91d70B efff10C efe2f0B efff10C efe2f0B efff10C efe2f0B efff10C
     efe2f0B efff10C f91d70B e6c490C f91d70B efff10C efe2f0B efff10C efe2f0B efff10C efe2f0B
     d44f90C 10b9270B d44f90C 114ccf0B cb1510C 114ccf0B cb1510C 114ccf0B d44f90C 10b9270B
     d44f90C 10b9270B d44f90C 114ccf0B cb1510C 114ccf0B cb1510C 114ccf0B d44f90C 10b9270B
     d44f90C 10b9270B d44f90C 10b9270B d44f90C 114ccf0B cb1510C 114ccf0B cb1510C 114ccf0B
     d44f90C 10b9270B d44f90C 10b9270B d44f90C 114ccf0B cb1510C 114ccf0B cb1510C 114ccf0B / 7d7
     3 2 0 7080 -4650 b 1 0 6270 -5460"),
  ("America/Chihuahua", "-6374,-6270,-5460,-4650 -5a491790B a3a4300C 6752af0B dae710C caf8f0B
     f15090C 7869ef10D 10b9270C d44f90D 10b9270C 1dff010B d44f90C 114ccf0B cb1510C 114ccf0B
     f93990C c1be70B f93990C 10b9270B d44f90C 10b9270B d44f90C 114ccf0B cb1510C 114ccf0B cb1510C
     114ccf0B cb1510C 114ccf0B d44f90C 10b9270B d44f90C 10b9270B d44f90C 114ccf0B cb1510C
     114ccf0B cb1510C 114ccf0B d44f90C 10b9270B d44f90C 10b9270B d44f90C 10b9270B d44f90C
     114ccf0B cb1510C 114ccf0B cb1510C 114ccf0B d44f90C 10b9270B d44f90C 10b9270B d44f90C
     114ccf0B cb1510C"),
  ("America/Ciudad_Juarez", "-63d4,-6270,-5460,-4650 -5a491790B a3a4300C 6752af0B dae710C
     caf8f0B f15090C 7869ef10D 10b9270C d44f90D 10b9270C 1dff010B d44f90C 114ccf0B cb1510C
     114ccf0B f93990C c1be70B f93990C 10b9270B d44f90C 10b9270B d44f90C 114ccf0B cb1510C
     114ccf0B cb1510C 114ccf0B cb1510C 114ccf0B d44f90C 10b9270B d44f90C 10b9270B b8a010C
     139b6f0B a62b10C 139b6f0B a62b10C 139b6f0B a62b10C 139b6f0B a62b10C 139b6f0B a62b10C
     139b6f0B af6590C 139b6f0B a62b10C 139b6f0B a62b10C 139b6f0B a62b10C 139b6f0B a62b10C
     139b6f0B af6590C 139b6f0B a62b10C 1593ed0B / 7e7 3 2 0 7e90 -5460 b 1 0 7080 -6270"),
  ("America/Costa_Rica", "-4ecd,-5460,-4650 -5c17e9b3B 6d4e3313C 8124f0B 15ebd10C 8124f0B
     14009010C d6d670B 1090b90C 4b1770B"),
  ("America/Cuiaba", "-3494,-3840,-2a30 -6955846cB 2164dc5cC edf6c0B f3f390C ed3ff0B 1f5a3a10C
     b34c00B 12de780C 9f7770B 141bc10C a0c8f0B 141bc10C 7698f0B 1443cc90C 6d5e70B 1bb0610C
     4dba70B 1430d90C 7698f0B 1430d90C 9e25f0B 1430d90C 9f7770B 213e1090C af4970B 1275e10C
     9399f0B 14d9990C 8a5f70B 14c4810C 8a5f70B 1558290C 9cd470B 14c4810C 9cd470B 1430d90C
     9399f0B 1558290C 8124f0B 1558290C a60ef0B 139d310C a60ef0B 139d310C 9cd470B 139d310C
     af4970B 131ea10C c06cf0B 1275e10C af4970B 1275e10C c1be70B 1275e10C af4970B 139d310C
     a60ef0B 1558290C 8a5f70B 3380790C 90f6f0B 139d310C a60ef0B 1558290C 9399f0B 1309890C
     a60ef0B 1430d90C 9cd470B 1430d90C a60ef0B 139d310C a60ef0B 139d310C af4970B 139d310C
     9cd470B 1430d90C 9cd470B 1430d90C a60ef0B 139d310C a60ef0B 139d310C a60ef0B 139d310C
     a60ef0B 1558290C 8a5f70B"),
  ("America/Danmarkshavn", "-1180,-2a30,-1c20,0 -647fb700B 77cd3350C e67e40B eff100C eff100B
     eff100C eff100B eff100C eff100B eff100C f92b80B eff100C eff100B eff100C eff100B eff100C
     eff100B eff100C eff100B eff100C eff100B eff100C f92b80B eff100C eff100B eff100C eff100B
     eff100C eff100B eff100C eff100B eff100C eff100B 82a0a0D"),
  ("America/Dawson", "-82b4,-7e90,-7080,-6270 -8279714cB 21323cfcC 10257f0B 114e910C d2c5d0B
     29e65630C 6d80b70B 24ce4270D f92b80B f084a80C c388590D efe2f0C efff10D efe2f0C efff10D
     f91d70C e6c490D f91d70C efff10D efe2f0C efff10D efe2f0C efff10D efe2f0C d44f90D 10b9270C
     d44f90D 114ccf0C cb1510D 114ccf0C cb1510D 114ccf0C d44f90D 10b9270C d44f90D 10b9270C
     d44f90D 114ccf0C cb1510D 114ccf0C cb1510D 114ccf0C d44f90D 10b9270C d44f90D 10b9270C
     d44f90D 10b9270C d44f90D 114ccf0C cb1510D 114ccf0C cb1510D 114ccf0C d44f90D 10b9270C
     d44f90D 10b9270C d44f90D 114ccf0C cb1510D 114ccf0C cb1510D 114ccf0C af6590D 139b6f0C
     a62b10D 139b6f0C a62b10D 139b6f0C af6590D 139b6f0C a62b10D 139b6f0C a62b10D 139b6f0C
     a62b10D 139b6f0C a62b10D 139b6f0C a62b10D 139b6f0C af6590D 139b6f0C a62b10D 139b6f0C
     a62b10D 139b6f0C a62b10D 139b6f0C a62b10D"),
  ("America/Dawson_Creek", "-70b8,-7080,-6270 -a1c28bc8B 407b4968C 10257f0B 2bce0510C 6d80b70B
     2f4cb10C caf8f0B 114e910C caf8f0B 114e910C caf8f0B 11e2390C c1be70B 11e2390C caf8f0B
     114e910C caf8f0B 114e910C caf8f0B 114e910C caf8f0B 114e910C caf8f0B 11e2390C caf8f0B
     114e910C caf8f0B 114e910C caf8f0B 114e910C caf8f0B 114e910C caf8f0B 11e2390C c1be70B
     11e2390C efe2f0B efff10C efe2f0B efff10C efe2f0B efff10C f91d70B e6c490C f91d70B efff10C
     efe2f0B efff10C efe2f0B efff10C efe2f0B efff10C efe2f0B efff10C f91d70B efff10C"),
  ("America/Denver", "-626c,-6270,-5460 -a1fbf350B 40a22de0C 114ccf0B cb1510C 114ccf0B cb1510C
     11e0770B c1da90C 49c5f0B 26f96610C 6d80b70B 24ce5e90C f91d70B e6c490C f91d70B efff10C
     efe2f0B efff10C efe2f0B efff10C efe2f0B efff10C efe2f0B efff10C f91d70B efff10C efe2f0B
     efff10C efe2f0B 5c5710C 1838af0B 9cf090C 142f170B efff10C f91d70B e6c490C f91d70B efff10C
     efe2f0B efff10C efe2f0B efff10C efe2f0B efff10C efe2f0B efff10C f91d70B e6c490C f91d70B
     efff10C efe2f0B efff10C efe2f0B efff10C efe2f0B d44f90C 10b9270B d44f90C 114ccf0B cb1510C
     114ccf0B cb1510C 114ccf0B d44f90C 10b9270B d44f90C 10b9270B d44f90C 114ccf0B cb1510C
     114ccf0B cb1510C 114ccf0B d44f90C 10b9270B d44f90C 10b9270B d44f90C 10b9270B d44f90C
     114ccf0B cb1510C 114ccf0B cb1510C 114ccf0B d44f90C 10b9270B d44f90C 10b9270B d44f90C
     114ccf0B cb1510C 114ccf0B cb1510C 114ccf0B / 7d7 3 2 0 7e90 -5460 b 1 0 7080 -6270"),
  ("America/Detroit", "-4ddb,-5460,-4650,-3840 -7a42dda5B 137f71a5C 324c5c70D 6d80b70C 4d4ad10D
     caf8f0C 2332eeacD b4ab54C efff10D efe2f0C 878c190D efe2f0C 5c5710D 1838af0C efff10D efe2f0C
     efff10D f91d70C e6c490D f91d70C efff10D efe2f0C efff10D efe2f0C efff10D efe2f0C efff10D
     efe2f0C efff10D f91d70C e6c490D f91d70C efff10D efe2f0C efff10D efe2f0C efff10D efe2f0C
     d44f90D 10b9270C d44f90D 114ccf0C cb1510D 114ccf0C cb1510D 114ccf0C d44f90D 10b9270C
     d44f90D 10b9270C d44f90D 114ccf0C cb1510D 114ccf0C cb1510D 114ccf0C d44f90D 10b9270C
     d44f90D 10b9270C d44f90D 10b9270C d44f90D 114ccf0C cb1510D 114ccf0C cb1510D 114ccf0C
     d44f90D 10b9270C d44f90D 10b9270C d44f90D 114ccf0C cb1510D 114ccf0C cb1510D 114ccf0C / 7d7
     3 2 0 6270 -3840 b 1 0 5460 -4650"),
  ("America/Edmonton", "-6a60,-6270,-5460 -77213120B 15d9e0b0C 10257f0B dd8a10C 39f3f0B 1b86310C
     f91d70B e6c490C caf8f0B 11e2390C c1be70B 11e2390C caf8f0B 228a4a90C 6d80b70B 2f4cb10C
     caf8f0B 2e403d90C efe2f0B efff10C efe2f0B efff10C efe2f0B efff10C efe2f0B efff10C f91d70B
     e6c490C f91d70B efff10C efe2f0B efff10C efe2f0B efff10C efe2f0B efff10C efe2f0B efff10C
     f91d70B e6c490C f91d70B efff10C efe2f0B efff10C efe2f0B efff10C efe2f0B d44f90C 10b9270B
     d44f90C 114ccf0B cb1510C 114ccf0B cb1510C 114ccf0B d44f90C 10b9270B d44f90C 10b9270B
     d44f90C 114ccf0B cb1510C 114ccf0B cb1510C 114ccf0B d44f90C 10b9270B d44f90C 10b9270B
     d44f90C 10b9270B d44f90C 114ccf0B cb1510C 114ccf0B cb1510C 114ccf0B d44f90C 10b9270B
     d44f90C 10b9270B d44f90C 114ccf0B cb1510C 114ccf0B cb1510C 114ccf0B / 7d7 3 2 0 7e90 -5460
     b 1 0 7080 -6270"),
  ("America/Eirunepe", "-4180,-4650,-3840 -69557780B 2164dd80C edf6c0B f3f390C ed3ff0B 1f5a3a10C
     b34c00B 12de780C 9f7770B 141bc10C a0c8f0B 141bc10C 7698f0B 1443cc90C 6d5e70B 1bb0610C
     4dba70B 1430d90C 7698f0B 1430d90C 9e25f0B 1430d90C 9f7770B 213e1090C af4970B 1275e10C
     9399f0B 14d9990C 8a5f70B ab4ec90C a60ef0B 1af99f10C a1e8570B"),
  ("America/El_Salvador", "-53a0,-5460,-4650 -5c2a59e0B 7cc536c0C c1be70B 11e2390C c1be70B"),
  ("America/Fort_Nelson", "-7307,-7080,-6270 -a1c28979B 407b4719C 10257f0B 2bce0510C 6d80b70B
     2f4cb10C caf8f0B 114e910C caf8f0B 114e910C caf8f0B 11e2390C c1be70B 11e2390C caf8f0B
     114e910C caf8f0B 114e910C caf8f0B 114e910C caf8f0B 114e910C caf8f0B 11e2390C caf8f0B
     114e910C caf8f0B 114e910C caf8f0B 114e910C caf8f0B 114e910C caf8f0B 11e2390C c1be70B
     11e2390C efe2f0B efff10C efe2f0B efff10C efe2f0B efff10C f91d70B e6c490C f91d70B efff10C
     efe2f0B efff10C efe2f0B efff10C efe2f0B efff10C efe2f0B efff10C f91d70B efff10C efe2f0B
     efff10C efe2f0B efff10C efe2f0B efff10C efe2f0B efff10C f91d70B e6c490C f91d70B efff10C
     efe2f0B efff10C efe2f0B efff10C efe2f0B efff10C efe2f0B efff10C f91d70B e6c490C f91d70B
     efff10C efe2f0B efff10C efe2f0B efff10C efe2f0B d44f90C 10b9270B d44f90C 114ccf0B cb1510C
     114ccf0B cb1510C 114ccf0B d44f90C 10b9270B d44f90C 10b9270B d44f90C 114ccf0B cb1510C
     114ccf0B cb1510C 114ccf0B d44f90C 10b9270B d44f90C 10b9270B d44f90C 10b9270B d44f90C
     114ccf0B cb1510C 114ccf0B cb1510C 114ccf0B d44f90C 10b9270B d44f90C 10b9270B d44f90C
     114ccf0B cb1510C 114ccf0B cb1510C 114ccf0B af6590C 139b6f0B a62b10C 139b6f0B a62b10C
     139b6f0B af6590C 139b6f0B a62b10C 139b6f0B a62b10C 139b6f0B a62b10C 139b6f0B a62b10C
     139b6f0B a62b10C"),
  ("America/Fortaleza", "-2418,-2a30,-1c20 -695594e8B 2164dec8C edf6c0B f3f390C ed3ff0B
     1f5a3a10C b34c00B 12de780C 9f7770B 141bc10C a0c8f0B 141bc10C 7698f0B 1443cc90C 6d5e70B
     1bb0610C 4dba70B 1430d90C 7698f0B 1430d90C 9e25f0B 1430d90C 9f7770B 213e1090C af4970B
     1275e10C 9399f0B 14d9990C 8a5f70B 14c4810C 8a5f70B 1558290C 9cd470B 1221ff90C c1be70B
     1275e10C 1266f0B 1d6b590C a60ef0B"),
  ("America/Glace_Bay", "-3834,-3840,-2a30 -7f0e57ccB 1dc6dd2cC 10257f0B 2bce0510C 6d80b70B
     e3d5190C caf8f0B 22f7b710C efe2f0B efff10C efe2f0B efff10C efe2f0B efff10C efe2f0B efff10C
     f91d70B e6c490C f91d70B efff10C efe2f0B efff10C efe2f0B efff10C efe2f0B efff10C efe2f0B
     efff10C f91d70B e6c490C f91d70B efff10C efe2f0B efff10C efe2f0B efff10C efe2f0B d44f90C
     10b9270B d44f90C 114ccf0B cb1510C 114ccf0B cb1510C 114ccf0B d44f90C 10b9270B d44f90C
     10b9270B d44f90C 114ccf0B cb1510C 114ccf0B cb1510C 114ccf0B d44f90C 10b9270B d44f90C
     10b9270B d44f90C 10b9270B d44f90C 114ccf0B cb1510C 114ccf0B cb1510C 114ccf0B d44f90C
     10b9270B d44f90C 10b9270B d44f90C 114ccf0B cb1510C 114ccf0B cb1510C 114ccf0B / 7d7 3 2 0
     5460 -2a30 b 1 0 4650 -3840"),
  ("America/Goose_Bay", "-38a4,-316c,-235c,-3138,-2328,-3840,-2a30,-1c20 -a1c2c3dcB 407b4268C
     10257f0B 1ee376f0D 219e3ccE c1be70D 11e2390E c1be70D 11e2390E c1be70D 1275e10E b883f0D
     1275e10E c1be70D 11e2390E c1be70D 11e2390E 6602f10D 1275e10E c1be70D 11e2390E c1be70D
     11e2390E c1be70D 11e2390E c1be70D 1275e10E c1be70D 10bae90E caf8f0D 114e910E caf8f0D
     114e910E caf8f0D 114e910E caf8f0D 114e910E caf8f0D 11e2390E caf8f0D 114e910E caf8f0D
     114e910E caf8f0D 114e910E caf8f0D 114e910E f91d70D efff10E efe2f0D efff10E efe2f0D efff10E
     efe2f0D efff10E efe2f0D efff10E f91d70D b20890F 34c308G f91d70F efff10G efe2f0F efff10G
     efe2f0F efff10G efe2f0F efff10G efe2f0F efff10G f91d70F efff10G efe2f0F efff10G efe2f0F
     efff10G efe2f0F efff10G efe2f0F efff10G f91d70F e6c490G f91d70F efff10G efe2f0F efff10G
     efe2f0F efff10G efe2f0F efff10G efe2f0F efff10G f91d70F e6c490G f91d70F efff10G efe2f0F
     efff10G efe2f0F efff10G efe2f0F d433acG 10b9270F d44f90H 114bee0F cb2320G 114ccf0F cb1510G
     114ccf0F d44f90G 10b9270F d44f90G 10b9270F d44f90G 114ccf0F cb1510G 114ccf0F cb1510G
     114ccf0F d44f90G 10b9270F d44f90G 10b9270F d44f90G 10b9270F d44f90G 114ccf0F cb1510G
     114ccf0F cb1510G 114ccf0F d44f90G 10b9270F d44f90G 10b9270F d44f90G 114ccf0F cb1510G
     114ccf0F cb1510G 114ccf0F af6590G 139b6f0F a62b10G 139b6f0F a62b10G 139b6f0F af6590G
     139b6f0F a62b10G 139d2d4F / 7dc 3 2 0 5460 -2a30 b 1 0 4650 -3840"),
  ("America/Grand_Turk", "-42b0,-47fe,-4650,-3840 -9678e1d0B 298896ceC 7e79b0f2D efe2f0C efff10D
     efe2f0C efff10D efe2f0C efff10D f91d70C e6c490D f91d70C efff10D efe2f0C efff10D efe2f0C
     efff10D efe2f0C d44f90D 10b9270C d44f90D 114ccf0C cb1510D 114ccf0C cb1510D 114ccf0C d44f90D
     10b9270C d44f90D 10b9270C d44f90D 114ccf0C cb1510D 114ccf0C cb1510D 114ccf0C d44f90D
     10b9270C d44f90D 10b9270C d44f90D 10b9270C d44f90D 114ccf0C cb1510D 114ccf0C cb1510D
     114ccf0C d44f90D 10b9270C d44f90D 10b9270C d44f90D 114ccf0C cb1510D 114ccf0C cb1510D
     114ccf0C af6590D 139b6f0C a62b10D 139b6f0C a62b10D 139b6f0C af6590D 139b6f0C a62b10D
     139b6f0C a62b10D 139b6f0C a62b10D 139b6f0C a62b10D 139b6f0C a62b10D 6e29770C / 7e3 3 2 0
     6270 -3840 b 1 0 5460 -4650"),
  ("America/Guatemala", "-54dc,-5460,-4650 -60621524B 67b7c184C 77ea70B 115ee190C a36bf0B
     e1b0a90C dd6df0B 1b8bf590C caf8f0B"),
  ("America/Guayaquil", "-4ad8,-4998,-4650,-3840 -9678d9a8B 4d1d1bc0C 7472bab8D 5ae970C"),
  ("America/Guyana", "-3687,-3840,-34bc,-2a30 -6de2f079B 6bc6bb9C 71a58a7cD 1f563b04B"),
  ("America/Halifax", "-3ba0,-3840,-2a30 -7f0e5460B 19f33320C f13470B 2e27230C 10257f0B 2e239f0C
     9399f0B 149a510C a0c8f0B 1388190C a8b1f0B 1406a90C 9f7770B 1406a90C b09af0B 12f4710C
     c30ff0B 12f4710C 9e25f0B 12f4710C c30ff0B 12f4710C 9cd470B 1430d90C 963cf0B 149a510C
     a76070B 1388190C b9d570B 11cd210C c30ff0B 11cd210C cc4a70B 12f4710C 9cd470B 1558290C
     9e25f0B 1430d90C 8a5f70B 12f4710C c30ff0B 11cd210C c30ff0B 141bc10C 9e25f0B 1260c90C
     c30ff0B 11cd210C c30ff0B af81b0C 6d80b70B 114e910C caf8f0B 114e910C caf8f0B 114e910C
     caf8f0B 114e910C caf8f0B 2fe0590C caf8f0B 114e910C caf8f0B 114e910C caf8f0B 114e910C
     caf8f0B 2fe0590C caf8f0B 114e910C caf8f0B 114e910C caf8f0B 114e910C caf8f0B 4dde790C
     efe2f0B efff10C efe2f0B efff10C efe2f0B efff10C f91d70B e6c490C f91d70B efff10C efe2f0B
     efff10C efe2f0B efff10C efe2f0B efff10C efe2f0B efff10C f91d70B efff10C efe2f0B efff10C
     efe2f0B efff10C efe2f0B efff10C efe2f0B efff10C f91d70B e6c490C f91d70B efff10C efe2f0B
     efff10C efe2f0B efff10C efe2f0B efff10C efe2f0B efff10C f91d70B e6c490C f91d70B efff10C
     efe2f0B efff10C efe2f0B efff10C efe2f0B d44f90C 10b9270B d44f90C 114ccf0B cb1510C 114ccf0B
     cb1510C 114ccf0B d44f90C 10b9270B d44f90C 10b9270B d44f90C 114ccf0B cb1510C 114ccf0B
     cb1510C 114ccf0B d44f90C 10b9270B d44f90C 10b9270B d44f90C 10b9270B d44f90C 114ccf0B
     cb1510C 114ccf0B cb1510C 114ccf0B d44f90C 10b9270B d44f90C 10b9270B d44f90C 114ccf0B
     cb1510C 114ccf0B cb1510C 114ccf0B / 7d7 3 2 0 5460 -2a30 b 1 0 4650 -3840"),
  ("America/Havana", "-4d38,-4d40,-4650,-3840 -9678d748B 42db99c8C 570d1d0D a0c8f0C 15e70990D
     77ea70C 167f790D 8124f0C 167f790D 77ea70C 527bb90D 77ea70C 167f790D 77ea70C 23442e10D
     9f7770C 13dc790D a60ef0C f7e810D cc4a70C 11e2390D c1be70C 1309890D efe2f0C efff10D efe2f0C
     efff10D f91d70C efff10D d43370C 10bae90D d584f0C 10a5d10D d6d670C 1090b90D efe2f0C efff10D
     f91d70C e6c490D f91d70C f93990D caf8f0C d44f90D 114ccf0C cb1510D 114ccf0C 114e910D caf8f0C
     114e910D caf8f0C 114e910D caf8f0C 114e910D d43370C 10bae90D d43370C cb1510D 114ccf0C
     cb1510D 114ccf0C d44f90D 10b9270C d44f90D 10b9270C e6c490D 10257f0C e6c490D f92b80C e6b680D
     f92b80C e6b680D f92b80C e6b680D f92b80C e6b680D f92b80C eff100D eff100C eff100D f92b80C
     dd7c00D 114db00C cb0700D 11e1580C cb0700D 114db00C cb0700D 114db00C d44180D 10ba080C
     d44180D 10ba080C cb0700D 4ddd980C af5780D 1308a80C b89200D 1275000C af5780D 1308a80C
     b89200D 1308a80C b89200D 139c500C b89200D 11e1580C / 7dd 3 2 0 4650 -3840 b 1 0 4650 -4650"),
  ("America/Hermosillo", "-6808,-6270,-5460 -5a491790B a3a4300C 6752af0B dae710C caf8f0B f15090C
     12ecea70B 657d12b0C 10b9270B d44f90C 10b9270B d44f90C 10b9270B"),
  ("America/Indiana/Indianapolis", "-50c6,-5460,-4650,-3840 -a1fc0160B 40a22de0C 114ccf0B
     cb1510C 114ccf0B 28bc4710C 8124f0B b0b710C 6d80b70B 114e910C caf8f0B 114e910C caf8f0B
     114e910C caf8f0B 114e910C caf8f0B 11e2390C c1be70B 11e2390C caf8f0B 114e910C caf8f0B
     114e910C caf8f0B 114e910C caf8f0B 114e910C 493f770B 114e910C 14b11cf0D efe2f0C efff10D
     efe2f0C 42a79490D 114ccf0C / 7d7 3 2 0 6270 -3840 b 1 0 5460 -4650"),
  ("America/Indiana/Knox", "-5136,-5460,-4650 -a1fc0160B 40a22de0C 114ccf0B cb1510C 114ccf0B
     29ee2310C 6d80b70B 2f4cb10C caf8f0B 114e910C caf8f0B 114e910C caf8f0B 11e2390C c1be70B
     11e2390C caf8f0B 114e910C caf8f0B 114e910C caf8f0B 114e910C caf8f0B 114e910C f91d70B
     efff10C efe2f0B efff10C caf8f0B 114e910C caf8f0B 114e910C efe2f0B efff10C f91d70B efff10C
     efe2f0B efff10C 2cfc4f0B 698df90C efe2f0B efff10C efe2f0B efff10C efe2f0B efff10C efe2f0B
     efff10C f91d70B efff10C efe2f0B efff10C efe2f0B 5c5710C 1838af0B 9cf090C 142f170B efff10C
     f91d70B e6c490C f91d70B efff10C efe2f0B efff10C efe2f0B efff10C efe2f0B efff10C efe2f0B
     efff10C f91d70B e6c490C f91d70B efff10C efe2f0B efff10C efe2f0B efff10C efe2f0B d44f90C
     10b9270B d44f90C 114ccf0B cb1510C 114ccf0B cb1510C 114ccf0B d44f90C 1d457ff0B / 7d7 3 2 0
     7080 -4650 b 1 0 6270 -5460"),
  ("America/Indiana/Marengo", "-50f3,-5460,-4650,-3840 -a1fc0160B 40a22de0C 114ccf0B cb1510C
     114ccf0B 29ee2310C 6d80b70B a7d8d90C caf8f0B 4d4ad10C caf8f0B 114e910C caf8f0B 11e2390C
     caf8f0B 114e910C caf8f0B 114e910C caf8f0B 114e910C caf8f0B 114e910C caf8f0B 11e2390C
     f083c70D efe2f0C efff10D efe2f0C efff10D f91d70C efff10D efe2f0C efff10D efe2f0C 27cd290D
     142f170C 393ef010D 114ccf0C / 7d7 3 2 0 6270 -3840 b 1 0 5460 -4650"),
  ("America/Indiana/Petersburg", "-51d3,-5460,-4650 -a1fc0160B 40a22de0C 114ccf0B cb1510C
     114ccf0B 29ee2310C 6d80b70B 120633f0C c1da90B 11e2390C caf8f0B 114e910C caf8f0B 114e910C
     caf8f0B 114e910C caf8f0B 114e910C caf8f0B 11e2390C efe2f0B efff10C efe2f0B efff10C efe2f0B
     efff10C efe2f0B efff10C 2d8ff70B efff10C efe2f0B efff10C efe2f0B efff10C efe2f0B efff10C
     efe2f0B efff10C f91d70B efff10C efe2f0B efff10C efe2f0B 5c5710C 1838af0B 9cf090C 142f170B
     efff10C f91d70B e6c490C 3783dbf0B af6590C / 7d8 3 2 0 6270 -3840 b 1 0 5460 -4650"),
  ("America/Indiana/Tell_City", "-5157,-5460,-4650,-3840 -a1fc0160B 40a22de0C 114ccf0B cb1510C
     114ccf0B 29ee2310C 6d80b70B 120633f0C c1da90B 11e2390C caf8f0B 114e910C caf8f0B 114e910C
     caf8f0B 114e910C caf8f0B 114e910C caf8f0B 11e2390C efe2f0B efff10C efe2f0B efff10C efe2f0B
     efff10C 698c370B efff10C efe2f0B efff10D efd4e0C efff10D efe2f0C 43bc6f90B / 7d7 3 2 0 7080
     -4650 b 1 0 6270 -5460"),
  ("America/Indiana/Vevay", "-4fc0,-5460,-4650,-3840 -a1fc0160B 40a22de0C 114ccf0B cb1510C
     114ccf0B 29ee2310C 6d80b70B 101d3390C 1c39df70D efe2f0C efff10D efe2f0C efff10D f91d70C
     efff10D efe2f0C 3ede9610D 114ccf0C / 7d7 3 2 0 6270 -3840 b 1 0 5460 -4650"),
  ("America/Indiana/Vincennes", "-520f,-5460,-4650,-3840 -a1fc0160B 40a22de0C 114ccf0B cb1510C
     114ccf0B 29ee2310C 6d80b70B 114e910C caf8f0B c5d6f90C caf8f0B 114e910C caf8f0B 11e0770C
     c1da90B 11e2390C caf8f0B 114e910C caf8f0B 114e910C caf8f0B 114e910C caf8f0B 114e910C
     f91d70B efff10C c1be70B 11e2390C efe2f0B efff10C efe2f0B efff10C 9689670D efe2f0C efff10D
     efe2f0C 43bc6f90B af6590C / 7d8 3 2 0 6270 -3840 b 1 0 5460 -4650"),
  ("America/Indiana/Winamac", "-5131,-5460,-4650,-3840 -a1fc0160B 40a22de0C 114ccf0B cb1510C
     114ccf0B 29ee2310C 6d80b70B 114e910C caf8f0B 114e910C caf8f0B 114e910C caf8f0B 114e910C
     caf8f0B 11e2390C c1be70B 11e2390C caf8f0B 114e910C caf8f0B 114e910C caf8f0B 114e910C
     caf8f0B 114e910C f91d70B efff10C efe2f0B efff10C caf8f0B 114e910C caf8f0B 114e910C caf8f0B
     114e910C caf8f0B 11e2390C f083c70D efe2f0C efff10D efe2f0C 43bc6f90B af6590D 139a8e0C / 7d8
     3 2 0 6270 -3840 b 1 0 5460 -4650"),
  ("America/Inuvik", "0,-7080,-6270,-5460 -1ff9b180B 245ad920C efe2f0B efff10C efe2f0B efff10C
     efe2f0B efff10C efe2f0B efff10C f91d70B e6c490C f91d70B efff10C efe2f0B efff10D efd4e0C
     efff10D efe2f0C efff10D efe2f0C efff10D f91d70C e6c490D f91d70C efff10D efe2f0C efff10D
     efe2f0C efff10D efe2f0C d44f90D 10b9270C d44f90D 114ccf0C cb1510D 114ccf0C cb1510D 114ccf0C
     d44f90D 10b9270C d44f90D 10b9270C d44f90D 114ccf0C cb1510D 114ccf0C cb1510D 114ccf0C
     d44f90D 10b9270C d44f90D 10b9270C d44f90D 10b9270C d44f90D 114ccf0C cb1510D 114ccf0C
     cb1510D 114ccf0C d44f90D 10b9270C d44f90D 10b9270C d44f90D 114ccf0C cb1510D 114ccf0C
     cb1510D 114ccf0C / 7d7 3 2 0 7e90 -5460 b 1 0 7080 -6270"),
  ("America/Iqaluit", "0,-3840,-4650,-5460 -33935e80B 5f45a60C 32000190B efe2f0C efff10B efe2f0C
     efff10B efe2f0C efff10B efe2f0C efff10B f91d70C e6c490B f91d70C efff10B efe2f0C efff10B
     efe2f0C efff10B efe2f0C efff10B efe2f0C efff10B f91d70C e6c490B f91d70C efff10B efe2f0C
     efff10B efe2f0C efff10B efe2f0C d44f90B 10b9270C d44f90B 114ccf0C cb1510B 114ccf0C cb1510B
     114ccf0C d44f90B 10b9270C d44f90B 10b9270C d44f90B 114ccf0C cb1510B 114ccf0C cb1510B
     114ccf0C d44f90B 10b9270C d44f90B 10b9270C d44f90B 10b9270C d44f90B 114ccf0D cb2320C
     1dfd3f0B 114ccf0C d44f90B 10b9270C d44f90B 10b9270C d44f90B 114ccf0C cb1510B 114ccf0C
     cb1510B 114ccf0C / 7d7 3 2 0 6270 -3840 b 1 0 5460 -4650"),
  ("America/Jamaica", "-47fe,-4650,-3840 -6cf04b02B 747d6472C 1838af0B 9cf090C 142f170B efff10C
     f91d70B e6c490C f91d70B efff10C efe2f0B efff10C efe2f0B efff10C efe2f0B efff10C efe2f0B
     efff10C f91d70B e6c490C f91d70B"),
  ("America/Juneau", "d37b,-7e05,-7080,-6270,-7e90 -c03d022fB 3dc434f4C 4e01e7dbD 6d80b70C
     2c572110D efe2f0C efff10D efe2f0C efff10D f91d70C efff10D efe2f0C efff10D efe2f0C 5c5710D
     1838af0C 9cf090D 142f170C efff10D f91d70C e6c490D f91d70C efff10D efe2f0C efff10D efe2f0C
     2cfe110D efe2f0C efff10D f91d70C e6c490D f91d70E f00d20C efe2f0E efff10C efe2f0E efff10C
     efe2f0E d44f90C 10b9270E d44f90C 114ccf0E cb1510C 114ccf0E cb1510C 114ccf0E d44f90C
     10b9270E d44f90C 10b9270E d44f90C 114ccf0E cb1510C 114ccf0E cb1510C 114ccf0E d44f90C
     10b9270E d44f90C 10b9270E d44f90C 10b9270E d44f90C 114ccf0E cb1510C 114ccf0E cb1510C
     114ccf0E d44f90C 10b9270E d44f90C 10b9270E d44f90C 114ccf0E cb1510C 114ccf0E cb1510C
     114ccf0E / 7d7 3 2 0 9ab0 -7080 b 1 0 8ca0 -7e90"),
  ("America/Kentucky/Louisville", "-5066,-5460,-4650,-3840 -a1fc0160B 40a22de0C 114ccf0B cb1510C
     114ccf0B 2d91b90C a21a70B 24f73d10C caf8f0B b0b710C 6d80b70B 114cd2cC 2e3254B 75aac10C
     c1be70B 11e2390C caf8f0B 114e910C caf8f0B 114e910C caf8f0B 114e910C caf8f0B 114e910C
     caf8f0B 11e2390C efe2f0B efff10C efe2f0B efff10C efe2f0B efff10C efe2f0B efff10C f91d70B
     efff10C d285a70D efe2f0C efff10D efe2f0C efff10D efe2f0C efff10D f91d70C efff10D efe2f0C
     efff10D efe2f0C 27cd290D 142f170C efff10D f91d70C e6c490D f91d70C efff10D efe2f0C efff10D
     efe2f0C efff10D efe2f0C efff10D efe2f0C efff10D f91d70C e6c490D f91d70C efff10D efe2f0C
     efff10D efe2f0C efff10D efe2f0C d44f90D 10b9270C d44f90D 114ccf0C cb1510D 114ccf0C cb1510D
     114ccf0C d44f90D 10b9270C d44f90D 10b9270C d44f90D 114ccf0C cb1510D 114ccf0C cb1510D
     114ccf0C d44f90D 10b9270C d44f90D 10b9270C d44f90D 10b9270C d44f90D 114ccf0C cb1510D
     114ccf0C cb1510D 114ccf0C d44f90D 10b9270C d44f90D 10b9270C d44f90D 114ccf0C cb1510D
     114ccf0C cb1510D 114ccf0C / 7d7 3 2 0 6270 -3840 b 1 0 5460 -4650"),
  ("America/Kentucky/Monticello", "-4f8c,-5460,-4650,-3840 -a1fc0160B 40a22de0C 114ccf0B cb1510C
     114ccf0B 29ee2310C 6d80b70B 2a773f10C efe2f0B efff10C efe2f0B efff10C efe2f0B efff10C
     f91d70B efff10C efe2f0B efff10C efe2f0B 5c5710C 1838af0B 9cf090C 142f170B efff10C f91d70B
     e6c490C f91d70B efff10C efe2f0B efff10C efe2f0B efff10C efe2f0B efff10C efe2f0B efff10C
     f91d70B e6c490C f91d70B efff10C efe2f0B efff10C efe2f0B efff10C efe2f0B d44f90C 10b9270B
     d44f90C 114ccf0B cb1510C 114ccf0B cb1510C 114ccf0B d44f90C 10b9270B d44f90C 10b9270B
     d44f90C 114ccf0B cb1510C 114ccf0B cb1510C 114ccf0B d44f90C 10b9270B d44f90C 10b9270B
     d44f90C 10b9270B d44f90C 114ccf0B cb1510C 1dfd3f0D 114ccf0C d44f90D 10b9270C d44f90D
     10b9270C d44f90D 114ccf0C cb1510D 114ccf0C cb1510D 114ccf0C / 7d7 3 2 0 6270 -3840 b 1 0
     5460 -4650"),
  ("America/La_Paz", "-3fe4,-31d4,-3840 -47e1691cB d03ef0C"),
  ("America/Lima", "-483c,-4854,-4650,-3840 -9678dc44B 22ed1d18C 375b097cD 7698f0C e96790D
     efe2f0C efff10D efe2f0C 5619b490D 7698f0C 16a9a90D 7698f0C 52e5310D 7698f0C 70f8690D
     7698f0C"),
  ("America/Los_Angeles", "-6eda,-7080,-6270 -a1fbe540B 40a22de0C 114ccf0B cb1510C 114ccf0B
     29ee2310C 6d80b70B 49d4e4cC 1823934B 27e1600C c1cc80B 11e1580C cb0700B 114db00C cb0700B
     114db00C cb0700B 114db00C cb0700B 114db00C cb0700B 11e1580C cb0700B 114db00C cb0700B
     114db00C cb0700B 114db00C cb0700B 114db00C cb0700B 11e1580C c1cc80B 11e1580C eff100B
     eff100C eff100B eff100C eff100B eff100C f92b80B e6b680C f92b80B efff10C efe2f0B efff10C
     efe2f0B efff10C efe2f0B efff10C efe2f0B efff10C f91d70B efff10C efe2f0B efff10C efe2f0B
     5c5710C 1838af0B 9cf090C 142f170B efff10C f91d70B e6c490C f91d70B efff10C efe2f0B efff10C
     efe2f0B efff10C efe2f0B efff10C efe2f0B efff10C f91d70B e6c490C f91d70B efff10C efe2f0B
     efff10C efe2f0B efff10C efe2f0B d44f90C 10b9270B d44f90C 114ccf0B cb1510C 114ccf0B cb1510C
     114ccf0B d44f90C 10b9270B d44f90C 10b9270B d44f90C 114ccf0B cb1510C 114ccf0B cb1510C
     114ccf0B d44f90C 10b9270B d44f90C 10b9270B d44f90C 10b9270B d44f90C 114ccf0B cb1510C
     114ccf0B cb1510C 114ccf0B d44f90C 10b9270B d44f90C 10b9270B d44f90C 114ccf0B cb1510C
     114ccf0B cb1510C 114ccf0B / 7d7 3 2 0 8ca0 -6270 b 1 0 7e90 -7080"),
  ("America/Maceio", "-217c,-2a30,-1c20 -69559784B 2164e164C edf6c0B f3f390C ed3ff0B 1f5a3a10C
     b34c00B 12de780C 9f7770B 141bc10C a0c8f0B 141bc10C 7698f0B 1443cc90C 6d5e70B 1bb0610C
     4dba70B 1430d90C 7698f0B 1430d90C 9e25f0B 1430d90C 9f7770B 213e1090C af4970B 1275e10C
     9399f0B 14d9990C 8a5f70B 14c4810C 8a5f70B 1558290C 9cd470B aabb210C 9cd470B 6d97910C
     c1be70B 1275e10C 1266f0B 1d6b590C a60ef0B"),
  ("America/Managua", "-50e4,-50e8,-5460,-4650 -9678d39cB 53a61c84C 49162b78D 360c9f0C 7adba90D
     827670C 15d6b90D 827670C 15ad3fd0D 15fba30C 829290D 7861170C f8ed190D e6a870C 1150530D
     caeae0C"),
  ("America/Manaus", "-3844,-3840,-2a30 -695580bcB 2164d8acC edf6c0B f3f390C ed3ff0B 1f5a3a10C
     b34c00B 12de780C 9f7770B 141bc10C a0c8f0B 141bc10C 7698f0B 1443cc90C 6d5e70B 1bb0610C
     4dba70B 1430d90C 7698f0B 1430d90C 9e25f0B 1430d90C 9f7770B 213e1090C af4970B 1275e10C
     9399f0B 14d9990C 8a5f70B ab4ec90C a60ef0B"),
  ("America/Martinique", "-3944,-3840,-2a30 -6e5c37bcB 81a9a5fcC e6a870B"),
  ("America/Matamoros", "-5b68,-5460,-4650 -5a4925a0B 7c9f16a0C 114ccf0B dfcb810C 10b9270B
     d44f90C 10b9270B d44f90C 10b9270B d44f90C 114ccf0B cb1510C 114ccf0B f93990C c1be70B f93990C
     10b9270B d44f90C 10b9270B d44f90C 114ccf0B cb1510C 114ccf0B cb1510C 114ccf0B cb1510C
     114ccf0B d44f90C 10b9270B d44f90C 10b9270B / 7da 3 2 0 7080 -4650 b 1 0 6270 -5460"),
  ("America/Mazatlan", "-63c4,-6270,-5460 -5a491790B a3a4300C 6752af0B dae710C caf8f0B f15090C
     12ecea70B 657d12b0C 10b9270B d44f90C 10b9270B d44f90C 10b9270B d44f90C 114ccf0B cb1510C
     114ccf0B f93990C c1be70B f93990C 10b9270B d44f90C 10b9270B d44f90C 114ccf0B cb1510C
     114ccf0B cb1510C 114ccf0B cb1510C 114ccf0B d44f90C 10b9270B d44f90C 10b9270B d44f90C
     114ccf0B cb1510C 114ccf0B cb1510C 114ccf0B d44f90C 10b9270B d44f90C 10b9270B d44f90C
     10b9270B d44f90C 114ccf0B cb1510C 114ccf0B cb1510C 114ccf0B d44f90C 10b9270B d44f90C
     10b9270B d44f90C 114ccf0B cb1510C 114ccf0B"),
  ("America/Menominee", "-5223,-5460,-4650 -9e88b69dB 3d2ee31dC 114ccf0B cb1510C 114ccf0B
     29ee2310C 6d80b70B 114e910C caf8f0B 24ce5e90C f91d70B 4afc310C 878a570B 5c5710C 1838af0B
     9cf090C 142f170B efff10C f91d70B e6c490C f91d70B efff10C efe2f0B efff10C efe2f0B efff10C
     efe2f0B efff10C efe2f0B efff10C f91d70B e6c490C f91d70B efff10C efe2f0B efff10C efe2f0B
     efff10C efe2f0B d44f90C 10b9270B d44f90C 114ccf0B cb1510C 114ccf0B cb1510C 114ccf0B d44f90C
     10b9270B d44f90C 10b9270B d44f90C 114ccf0B cb1510C 114ccf0B cb1510C 114ccf0B d44f90C
     10b9270B d44f90C 10b9270B d44f90C 10b9270B d44f90C 114ccf0B cb1510C 114ccf0B cb1510C
     114ccf0B d44f90C 10b9270B d44f90C 10b9270B d44f90C 114ccf0B cb1510C 114ccf0B cb1510C
     114ccf0B / 7d7 3 2 0 7080 -4650 b 1 0 6270 -5460"),
  ("America/Merida", "-5404,-5460,-4650 -5a4925a0B 70d40ba0C 199f470B 19429b90C 10b9270B d44f90C
     10b9270B d44f90C 10b9270B d44f90C 114ccf0B cb1510C 114ccf0B f93990C c1be70B f93990C
     10b9270B d44f90C 10b9270B d44f90C 114ccf0B cb1510C 114ccf0B cb1510C 114ccf0B cb1510C
     114ccf0B d44f90C 10b9270B d44f90C 10b9270B d44f90C 114ccf0B cb1510C 114ccf0B cb1510C
     114ccf0B d44f90C 10b9270B d44f90C 10b9270B d44f90C 10b9270B d44f90C 114ccf0B cb1510C
     114ccf0B cb1510C 114ccf0B d44f90C 10b9270B d44f90C 10b9270B d44f90C 114ccf0B cb1510C
     114ccf0B"),
  ("America/Metlakatla", "d626,-7b5a,-7080,-6270,-7e90 -c03d022fB 3dc43249C 4e01ea86D 6d80b70C
     2c572110D efe2f0C efff10D efe2f0C efff10D f91d70C efff10D efe2f0C efff10D efe2f0C 5c5710D
     1838af0C 9cf090D 142f170C efff10D f91d70C e6c490D f91d70C efff10D efe2f0C efff10D efe2f0C
     efff10D efe2f0C efff10D efe2f0C efff10D f91d70C e6c490D f91d70C 3c33ad10E af6590C 139b6f0E
     a62b10C 139b6f0E a62b10C 19f3a70E 40a790C 139b6f0E / 7e4 3 2 0 9ab0 -7080 b 1 0 8ca0 -7e90"),
  ("America/Mexico_City", "-5cf4,-6270,-5460,-4650 -5a491790B a3a4300C 6752af0B dae710C caf8f0B
     f15090C ce12970D b883f0C 2bebd90D 94eb70C 517e990D b48f70C ae1bf90D dd6df0C 55f0f230D
     10b9270C d44f90D 10b9270C d44f90D 10b9270C d44f90D 114ccf0C cb1510D 114ccf0C f93990D
     c1be70C f93990D 10b9270C d44f90D 10b9270C d44f90D 114ccf0C cb1510D 114ccf0C cb1510D
     114ccf0C cb1510D 114ccf0C d44f90D 10b9270C d44f90D 10b9270C d44f90D 114ccf0C cb1510D
     114ccf0C cb1510D 114ccf0C d44f90D 10b9270C d44f90D 10b9270C d44f90D 10b9270C d44f90D
     114ccf0C cb1510D 114ccf0C cb1510D 114ccf0C d44f90D 10b9270C d44f90D 10b9270C d44f90D
     114ccf0C cb1510D 114ccf0C"),
  ("America/Miquelon", "-34a8,-3840,-2a30,-1c20 -6e20e8d8B 818f4c98C d078110D 10b9270C d44f90D
     114ccf0C cb1510D 114ccf0C cb1510D 114ccf0C d44f90D 10b9270C d44f90D 10b9270C d44f90D
     114ccf0C cb1510D 114ccf0C cb1510D 114ccf0C d44f90D 10b9270C d44f90D 10b9270C d44f90D
     10b9270C d44f90D 114ccf0C cb1510D 114ccf0C cb1510D 114ccf0C d44f90D 10b9270C d44f90D
     10b9270C d44f90D 114ccf0C cb1510D 114ccf0C cb1510D 114ccf0C / 7d7 3 2 0 4650 -1c20 b 1 0
     3840 -2a30"),
  ("America/Moncton", "-3cbc,-4650,-3840,-2a30 -a1e11244B 22d2c894C 1dc6cf10D 10257f0C 1b815b80D
     77ea70C 167f790D 77ea70C 167f790D 77ea70C 167f790D 77ea70C 167f790D 77ea70C 167f790D
     77ea70C 15d6b90D 9cd470C 13b2490D a4bd70C 128af90D c06cf0C b216a0D 6d80b70C 114e910D
     caf8f0C 114e910D caf8f0C 114e910D caf8f0C 114e910D caf8f0C 11e2390D c1be70C 11e2390D
     caf8f0C 114e910D caf8f0C 114e910D caf8f0C 114e910D caf8f0C 114e910D caf8f0C 11e2390D
     caf8f0C 114e910D efe2f0C efff10D efe2f0C efff10D efe2f0C efff10D f91d70C efff10D efe2f0C
     efff10D efe2f0C efff10D efe2f0C efff10D efe2f0C efff10D f91d70C e6c490D f91d70C efff10D
     efe2f0C efff10D efe2f0C efff10D efe2f0C efff10D efe2f0C efff10D f91d70C efff10D efe2f0C
     2cfe110D efe2f0C efff10D efe2f0C efff10D f91d70C e6c490D f91d70C efff10D efe2f0C efff10D
     efe2f0C efff10D efe2f0C efff10D efe2f0C efff10D f91d70C e6c490D f91d70C efff10D efe2f0C
     efff10D efe2f0C efff10D efe2f0C d44f90D 10b9270C d44f90D 114ccf0C cb1510D 114ccf0C cb1510D
     114ccf0C d44f90D 10b9270C d44f90D 10b9270C d433acD 114ccf0C cb1510D 114ccf0C cb1510D
     114ccf0C d44f90D 10b9270C d44f90D 10b9270C d44f90D 10b9270C d44f90D 114ccf0C cb1510D
     114ccf0C cb1510D 114ccf0C d44f90D 10b9270C d44f90D 10b9270C d44f90D 114ccf0C cb1510D
     114ccf0C cb1510D 114ccf0C / 7d7 3 2 0 5460 -2a30 b 1 0 4650 -3840"),
  ("America/Monterrey", "-5e0c,-6270,-5460,-4650 -5a4925a0B a3a5110C 6752af0B dae710C caf8f0B
     f15090C 69586a10D 114ccf0C dfcb810D 10b9270C d44f90D 10b9270C d44f90D 10b9270C d44f90D
     114ccf0C cb1510D 114ccf0C f93990D c1be70C f93990D 10b9270C d44f90D 10b9270C d44f90D
     114ccf0C cb1510D 114ccf0C cb1510D 114ccf0C cb1510D 114ccf0C d44f90D 10b9270C d44f90D
     10b9270C d44f90D 114ccf0C cb1510D 114ccf0C cb1510D 114ccf0C d44f90D 10b9270C d44f90D
     10b9270C d44f90D 10b9270C d44f90D 114ccf0C cb1510D 114ccf0C cb1510D 114ccf0C d44f90D
     10b9270C d44f90D 10b9270C d44f90D 114ccf0C cb1510D 114ccf0C"),
  ("America/Montevideo", "-34b3,-3840,-2a30,-3138,-2328,-1c20,-1518 -5d6d784dB 66d538dC f13470D
     f14988C efe9f8D f14988C efe9f8D e413f08C cafff8D 114e208C cafff8D 114e208C cafff8D 114e208C
     cafff8D 11e1c88C c1c578D 11e1c88C c1c578D f93288C efe9f8D 114e208C cafff8D a38108C 29326f8E
     769ff8C 1e761f88E e6af78C 531588F 408b70C 98d9c90F e6a870C 5042310E f7d2f8C 2a06408F
     41dcf0C 37f3890F 6eaff0C 2cfe110G 49bee8E e6c490C 93af08F 8124f0C 33e9f10F 657570C 167f790F
     77ea70C 17a6c90F 657570C 49e210F 1a874f0C e91b190F 6423f0C 17a6c90F 6eaff0C 139d310F
     9cd470C 139d310F af4970C 139d310F a60ef0C 1309890F af4970C 15bcd990F f93990C 1027410F
     caf8f0C 10bae90F d43370C 114e910F caf8f0C 114e910F caf8f0C 114e910F d43370C 10bae90F
     d43370C 10bae90F d43370C 114e910F caf8f0C 114e910F caf8f0C 114e910F caf8f0C"),
  ("America/New_York", "-4562,-4650,-3840 -a1fc0f70B 40a22de0C 114ccf0B cb1510C 114ccf0B cb1510C
     11e0770B e6c490C caf8f0B 11e2390C c1be70B 11e2390C caf8f0B 114e910C caf8f0B 114e910C
     caf8f0B 114e910C caf8f0B 114e910C caf8f0B 11e2390C caf8f0B 114e910C caf8f0B 114e910C
     caf8f0B 114e910C caf8f0B 114e910C caf8f0B 11e2390C c1be70B 11e2390C caf8f0B 114e910C
     caf8f0B 114e910C caf8f0B 114e910C caf8f0B 114e910C caf8f0B 11e2390C c1be70B 11e2390C
     caf8f0B 114e910C caf8f0B b0b710C 6d80b70B 114e910C caf8f0B 114e910C caf8f0B 114e910C
     caf8f0B 114e910C caf8f0B 11e2390C c1be70B 11e2390C caf8f0B 114e910C caf8f0B 114e910C
     caf8f0B 114e910C caf8f0B 114e910C f91d70B efff10C efe2f0B efff10C efe2f0B efff10C efe2f0B
     efff10C efe2f0B efff10C f91d70B efff10C efe2f0B efff10C efe2f0B efff10C efe2f0B efff10C
     efe2f0B efff10C f91d70B e6c490C f91d70B efff10C efe2f0B efff10C efe2f0B efff10C efe2f0B
     efff10C efe2f0B efff10C f91d70B efff10C efe2f0B efff10C efe2f0B 5c5710C 1838af0B 9cf090C
     142f170B efff10C f91d70B e6c490C f91d70B efff10C efe2f0B efff10C efe2f0B efff10C efe2f0B
     efff10C efe2f0B efff10C f91d70B e6c490C f91d70B efff10C efe2f0B efff10C efe2f0B efff10C
     efe2f0B d44f90C 10b9270B d44f90C 114ccf0B cb1510C 114ccf0B cb1510C 114ccf0B d44f90C
     10b9270B d44f90C 10b9270B d44f90C 114ccf0B cb1510C 114ccf0B cb1510C 114ccf0B d44f90C
     10b9270B d44f90C 10b9270B d44f90C 10b9270B d44f90C 114ccf0B cb1510C 114ccf0B cb1510C
     114ccf0B d44f90C 10b9270B d44f90C 10b9270B d44f90C 114ccf0B cb1510C 114ccf0B cb1510C
     114ccf0B / 7d7 3 2 0 6270 -3840 b 1 0 5460 -4650"),
  ("America/Nome", "b66e,-9b12,-9ab0,-8ca0,-7e90,-7080 -c03d022fB 3dc45201C 4e01f4feD 6d80b70C
     2c572110D efe2f0C efff10D efe2f0C efff10D f91d70C efff10D efe2f0C efff10D efe2f0C 5c5710D
     1838af0C 9cf090D 142f170C efff10D f91d70C e6c490D f91d70C efff10D efe2f0C efff10D efe2f0C
     efff10D efe2f0C efff10D efe2f0C efff10D f91d70C e6c490D f91d70E efe2f0F efe2f0E efff10F
     efe2f0E efff10F efe2f0E d44f90F 10b9270E d44f90F 114ccf0E cb1510F 114ccf0E cb1510F 114ccf0E
     d44f90F 10b9270E d44f90F 10b9270E d44f90F 114ccf0E cb1510F 114ccf0E cb1510F 114ccf0E
     d44f90F 10b9270E d44f90F 10b9270E d44f90F 10b9270E d44f90F 114ccf0E cb1510F 114ccf0E
     cb1510F 114ccf0E d44f90F 10b9270E d44f90F 10b9270E d44f90F 114ccf0E cb1510F 114ccf0E
     cb1510F 114ccf0E / 7d7 3 2 0 9ab0 -7080 b 1 0 8ca0 -7e90"),
  ("America/Noronha", "-1e64,-1c20,-e10 -69559a9cB 2164d66cC edf6c0B f3f390C ed3ff0B 1f5a3a10C
     b34c00B 12de780C 9f7770B 141bc10C a0c8f0B 141bc10C 7698f0B 1443cc90C 6d5e70B 1bb0610C
     4dba70B 1430d90C 7698f0B 1430d90C 9e25f0B 1430d90C 9f7770B 213e1090C af4970B 1275e10C
     9399f0B 14d9990C 8a5f70B 14c4810C 8a5f70B 1558290C 9cd470B 1221ff90C c1be70B 1275e10C
     92c70B 1dff010C a60ef0B"),
  ("America/North_Dakota/Beulah", "-5f6b,-6270,-5460 -a1fbf350B 40a22de0C 114ccf0B cb1510C
     114ccf0B 29ee2310C 6d80b70B 28975d10C efe2f0B efff10C efe2f0B efff10C efe2f0B efff10C
     efe2f0B efff10C f91d70B efff10C efe2f0B efff10C efe2f0B 5c5710C 1838af0B 9cf090C 142f170B
     efff10C f91d70B e6c490C f91d70B efff10C efe2f0B efff10C efe2f0B efff10C efe2f0B efff10C
     efe2f0B efff10C f91d70B e6c490C f91d70B efff10C efe2f0B efff10C efe2f0B efff10C efe2f0B
     d44f90C 10b9270B d44f90C 114ccf0B cb1510C 114ccf0B cb1510C 114ccf0B d44f90C 10b9270B
     d44f90C 10b9270B d44f90C 114ccf0B cb1510C 114ccf0B cb1510C 114ccf0B d44f90C 10b9270B
     d44f90C 10b9270B d44f90C 10b9270B d44f90C 114ccf0B cb1510C 114ccf0B cb1510C 114ccf0B
     d44f90C 10b9270B d44f90C 10b9270B d44f90C 114ccf0B cb1510C 114ccf0B cb1510C 114ccf0B
     af6590C 139b6f0B a62b10C 139b6f0B a62b10C 139b6f0B af6590C / 7db 3 2 0 7080 -4650 b 1 0
     6270 -5460"),
  ("America/North_Dakota/Center", "-5ef8,-6270,-5460,-4650 -a1fbf350B 40a22de0C 114ccf0B cb1510C
     114ccf0B 29ee2310C 6d80b70B 28975d10C efe2f0B efff10C efe2f0B efff10C efe2f0B efff10C
     efe2f0B efff10C f91d70B efff10C efe2f0B efff10C efe2f0B 5c5710C 1838af0B 9cf090C 142f170B
     efff10C f91d70B e6c490C f91d70B efff10C efe2f0B efff10C efe2f0B efff10C efe2f0B efff10C
     efe2f0B efff10C f91d70B e6c490C f91d70B efff10C efe2f0B efff10C efe2f0B efff10C efe2f0B
     d44f90C 10b9270B d44f90C 114ccf0B cb1510C 114ccf0B cb1510C 114ccf0B d44f90C 10b9270B
     d44f90C 1dfd3f0D 114ccf0C cb1510D 114ccf0C cb1510D 114ccf0C d44f90D 10b9270C d44f90D
     10b9270C d44f90D 10b9270C d44f90D 114ccf0C cb1510D 114ccf0C cb1510D 114ccf0C d44f90D
     10b9270C d44f90D 10b9270C d44f90D 114ccf0C cb1510D 114ccf0C cb1510D 114ccf0C / 7d7 3 2 0
     7080 -4650 b 1 0 6270 -5460"),
  ("America/North_Dakota/New_Salem", "-5f13,-6270,-5460,-4650 -a1fbf350B 40a22de0C 114ccf0B
     cb1510C 114ccf0B 29ee2310C 6d80b70B 28975d10C efe2f0B efff10C efe2f0B efff10C efe2f0B
     efff10C efe2f0B efff10C f91d70B efff10C efe2f0B efff10C efe2f0B 5c5710C 1838af0B 9cf090C
     142f170B efff10C f91d70B e6c490C f91d70B efff10C efe2f0B efff10C efe2f0B efff10C efe2f0B
     efff10C efe2f0B efff10C f91d70B e6c490C f91d70B efff10C efe2f0B efff10C efe2f0B efff10C
     efe2f0B d44f90C 10b9270B d44f90C 114ccf0B cb1510C 114ccf0B cb1510C 114ccf0B d44f90C
     10b9270B d44f90C 10b9270B d44f90C 114ccf0B cb1510C 114ccf0B cb1510C 114ccf0B d44f90C
     10b9270B d44f90C 10b9270B d44f90C 10b9270B d44f90C 114ccf0B cb1510C 114ccf0B cb1510C
     114ccf0B d44f90C 10b9270B d44f90C 1dfd3f0D 114ccf0C cb1510D 114ccf0C cb1510D 114ccf0C / 7d7
     3 2 0 7080 -4650 b 1 0 6270 -5460"),
  ("America/Nuuk", "-3080,-2a30,-1c20 -647f9800B 77cd1450C e67e40B eff100C eff100B eff100C
     eff100B eff100C eff100B eff100C f92b80B eff100C eff100B eff100C eff100B eff100C eff100B
     eff100C eff100B eff100C eff100B eff100C f92b80B eff100C eff100B eff100C eff100B eff100C
     eff100B eff100C eff100B eff100C eff100B f92b80C 114db00B cb0700C 114db00B cb0700C 114db00B
     cb0700C 11e1580B c1cc80C 11e1580B c1cc80C 11e1580B cb0700C 114db00B cb0700C 114db00B
     cb0700C 11e1580B c1cc80C 11e1580B c1cc80C 11e1580B c1cc80C 11e1580B cb0700C 114db00B
     cb0700C 114db00B cb0700C 11e1580B c1cc80C 11e1580B c1cc80C 11e1580B cb0700C 114db00B
     cb0700C 114db00B cb0700C 114db00B cb0700C 11e1580B c1cc80C 11e1580B c1cc80C 11e1580B
     cb0700C 114db00B cb0700C 114db00B cb0700C 11e1580B c1cc80C 11e1580B c1cc80C / 7e8 3 5 0 e10
     -e10 a 5 0 e10 -1c20"),
  ("America/Ojinaga", "-61e4,-6270,-5460,-4650 -5a491790B a3a4300C 6752af0B dae710C caf8f0B
     f15090C 7869ef10D 10b9270C d44f90D 10b9270C 1dff010B d44f90C 114ccf0B cb1510C 114ccf0B
     f93990C c1be70B f93990C 10b9270B d44f90C 10b9270B d44f90C 114ccf0B cb1510C 114ccf0B cb1510C
     114ccf0B cb1510C 114ccf0B d44f90C 10b9270B d44f90C 10b9270B b8a010C 139b6f0B a62b10C
     139b6f0B a62b10C 139b6f0B a62b10C 139b6f0B a62b10C 139b6f0B a62b10C 139b6f0B af6590C
     139b6f0B a62b10C 139b6f0B a62b10C 139b6f0B a62b10C 139b6f0B a62b10C 139b6f0B af6590C
     139b6f0B a62b10C / 7e7 3 2 0 7080 -4650 b 1 0 6270 -5460"),
  ("America/Panama", "-4a90,-4ae8,-4650 -9678d9f0B 226d3bd8C"),
  ("America/Paramaribo", "-33b8,-33c4,-33b4,-3138,-2a30 -6efa7148B 2d24bd0cC 1437e0f0D 495c0504E"),
  ("America/Phoenix", "-6912,-6270,-5460 -a1fbf350B 40a22de0C 114ccf0B cb1510C 114ccf0B
     29ee2310C 38ed28cB 780690C f13470B 2a775af4C efe2f0B"),
  ("America/Port-au-Prince", "-43d0,-43bc,-4650,-3840 -9678e0b0B 32e752acC 7cacd4d4D e6a870C
     efff10D efe2f0C efff10D efe2f0C efff10D efe2f0C efff10D efe2f0C d45da0D 114db00C cb0700D
     114db00C cb0700D 114db00C d44180D 10ba080C d44180D 10ba080C d44180D 114db00C cb0700D
     114db00C cb0700D 114db00C d44180D 10ba080C d44180D 10ba080C dfc9bf0D 114ccf0C cb1510D
     114ccf0C a182630D 139b6f0C a62b10D 139b6f0C a62b10D 139b6f0C a62b10D 139b6f0C / 7e1 3 2 0
     6270 -3840 b 1 0 5460 -4650"),
  ("America/Porto_Velho", "-3be8,-3840,-2a30 -69557d18B 2164d508C edf6c0B f3f390C ed3ff0B
     1f5a3a10C b34c00B 12de780C 9f7770B 141bc10C a0c8f0B 141bc10C 7698f0B 1443cc90C 6d5e70B
     1bb0610C 4dba70B 1430d90C 7698f0B 1430d90C 9e25f0B 1430d90C 9f7770B 213e1090C af4970B
     1275e10C 9399f0B 14d9990C 8a5f70B"),
  ("America/Puerto_Rico", "-3df9,-3840,-2a30 -85196a47B 510f9d07C 66abb10B"),
  ("America/Punta_Arenas", "-427c,-4245,-4650,-3840,-2a30 -9678e204B 25a92949C c2c9e0bB 41ffd75D
     1838efbB f5e0605D 118c57bC c9c390D 1176ff0C c9c390D 1176ff0C c9c390D 1176ff0C c9c390D
     118c170C c9c390D 12554df0C 507990D 8c66df0C 433c80D 285aaa00E c1be70D 139d310E a60ef0D
     1027410E caf8f0D 114e910E caf8f0D 11e2390E c1be70D 10bae90E d43370D 11e2390E c1be70D
     11e2390E caf8f0D 114e910E caf8f0D 114e910E caf8f0D 11e2390E c1be70D 11e2390E c1be70D
     11e2390E caf8f0D 114e910E caf8f0D 114e910E caf8f0D 114e910E caf8f0D 11e2390E c1be70D
     11e2390E c1be70D 11e2390E efe2f0D efff10E caf8f0D 114e910E caf8f0D 11e2390E c1be70D f93990E
     e6a870D 11e2390E caf8f0D 114e910E caf8f0D 114e910E caf8f0D 114e910E caf8f0D 11e2390E
     c1be70D 11e2390E dd6df0D 1027410E caf8f0D 1027410E f91d70D f93990E caf8f0D 11e2390E c1be70D
     11e2390E c1be70D 11e2390E c1be70D 11e2390E caf8f0D 114e910E caf8f0D 114e910E caf8f0D
     11e2390E c1be70D 11e2390E dd6df0D 1027410E caf8f0D 114e910E e6a870D f93990E 114ccf0D
     8a7b90E 14c2bf0D a62b10E 139b6f0D af6590E 1307c70D af6590E 32c0df0D 780690E"),
  ("America/Rankin_Inlet", "0,-5460,-4650 -18739200B 1cd49d80C efe2f0B efff10C efe2f0B efff10C
     efe2f0B efff10C efe2f0B efff10C f91d70B e6c490C f91d70B efff10C efe2f0B efff10C efe2f0B
     efff10C efe2f0B efff10C efe2f0B efff10C f91d70B e6c490C f91d70B efff10C efe2f0B efff10C
     efe2f0B efff10C efe2f0B d44f90C 10b9270B d44f90C 114ccf0B cb1510C 114ccf0B cb1510C 114ccf0B
     d44f90C 10b9270B d44f90C 10b9270B d44f90C 114ccf0B cb1510C 114ccf0B cb1510C 114ccf0B
     d44f90C 10b9270B d44f90C 10b9270B d44f90C 10b9270B d44f90C 114ccf0B cb1510C 2f4aef0B
     d44f90C 10b9270B d44f90C 10b9270B d44f90C 114ccf0B cb1510C 114ccf0B cb1510C 114ccf0B / 7d7
     3 2 0 7080 -4650 b 1 0 6270 -5460"),
  ("America/Recife", "-20b8,-2a30,-1c20 -69559848B 2164e228C edf6c0B f3f390C ed3ff0B 1f5a3a10C
     b34c00B 12de780C 9f7770B 141bc10C a0c8f0B 141bc10C 7698f0B 1443cc90C 6d5e70B 1bb0610C
     4dba70B 1430d90C 7698f0B 1430d90C 9e25f0B 1430d90C 9f7770B 213e1090C af4970B 1275e10C
     9399f0B 14d9990C 8a5f70B 14c4810C 8a5f70B 1558290C 9cd470B 1221ff90C c1be70B 1275e10C
     92c70B 1dff010C a60ef0B"),
  ("America/Regina", "-621c,-6270,-5460 -79026ce4B 17bb1c74C 10257f0B 15aa4870C caf8f0B 114e910C
     caf8f0B 114e910C caf8f0B 11e2390C c1be70B 11e2390C caf8f0B 4b8fd90C efe2f0B efff10C e6a870B
     f93990C efe2f0B f93990C efe2f0B efff10C efe2f0B 9e5e30C 6d80b70B 1027410C efe2f0B 1027410C
     caf8f0B 114e910C caf8f0B 114e910C caf8f0B 11e2390C c1be70B 11e2390C caf8f0B 114e910C
     caf8f0B 114e910C caf8f0B 114e910C caf8f0B 114e910C caf8f0B 11e2390C caf8f0B 114e910C
     caf8f0B 2f4cb10C efe2f0B efff10C"),
  ("America/Resolute", "0,-5460,-4650 -2a047e80B 2e658a00C efe2f0B efff10C efe2f0B efff10C
     efe2f0B efff10C efe2f0B efff10C f91d70B e6c490C f91d70B efff10C efe2f0B efff10C efe2f0B
     efff10C efe2f0B efff10C efe2f0B efff10C f91d70B e6c490C f91d70B efff10C efe2f0B efff10C
     efe2f0B efff10C efe2f0B d44f90C 10b9270B d44f90C 114ccf0B cb1510C 114ccf0B cb1510C 114ccf0B
     d44f90C 10b9270B d44f90C 10b9270B d44f90C 114ccf0B cb1510C 114ccf0B cb1510C 114ccf0B
     d44f90C 10b9270B d44f90C 10b9270B d44f90C 10b9270B d44f90C 114ccf0B cb1510C 2f4aef0B
     d44f90C 10b9270B d44f90C 10b9270B d44f90C 114ccf0B cb1510C 114ccf0B cb1510C 2fde970B / 7d8
     3 2 0 7080 -4650 b 1 0 6270 -5460"),
  ("America/Rio_Branco", "-3f90,-4650,-3840 -69557970B 2164df70C edf6c0B f3f390C ed3ff0B
     1f5a3a10C b34c00B 12de780C 9f7770B 141bc10C a0c8f0B 141bc10C 7698f0B 1443cc90C 6d5e70B
     1bb0610C 4dba70B 1430d90C 7698f0B 1430d90C 9e25f0B 1430d90C 9f7770B 213e1090C af4970B
     1275e10C 9399f0B 14d9990C 8a5f70B 26549a90C a1e8570B"),
  ("America/Santarem", "-3348,-3840,-2a30 -695585b8B 2164dda8C edf6c0B f3f390C ed3ff0B 1f5a3a10C
     b34c00B 12de780C 9f7770B 141bc10C a0c8f0B 141bc10C 7698f0B 1443cc90C 6d5e70B 1bb0610C
     4dba70B 1430d90C 7698f0B 1430d90C 9e25f0B 1430d90C 9f7770B 213e1090C af4970B 1275e10C
     9399f0B 14d9990C 8a5f70B 26549a90C"),
  ("America/Santiago", "-4245,-4650,-3840,-2a30 -70cfb8bbB c2c9e0bA 41ffd75C 1838efbA f5e0605C
     118c57bB c9c390C 1176ff0B c9c390C 1176ff0B c9c390C 1176ff0B c9c390C 118c170B c9c390C
     12554df0B 507990C 76fa7f0D 3b4570C 11b8090B 433c80C 285aaa00D c1be70C 139d310D a60ef0C
     1027410D caf8f0C 114e910D caf8f0C 11e2390D c1be70C 10bae90D d43370C 11e2390D c1be70C
     11e2390D caf8f0C 114e910D caf8f0C 114e910D caf8f0C 11e2390D c1be70C 11e2390D c1be70C
     11e2390D caf8f0C 114e910D caf8f0C 114e910D caf8f0C 114e910D caf8f0C 11e2390D c1be70C
     11e2390D c1be70C 11e2390D efe2f0C efff10D caf8f0C 114e910D caf8f0C 11e2390D c1be70C f93990D
     e6a870C 11e2390D caf8f0C 114e910D caf8f0C 114e910D caf8f0C 114e910D caf8f0C 11e2390D
     c1be70C 11e2390D dd6df0C 1027410D caf8f0C 1027410D f91d70C f93990D caf8f0C 11e2390D c1be70C
     11e2390D c1be70C 11e2390D c1be70C 11e2390D caf8f0C 114e910D caf8f0C 114e910D caf8f0C
     11e2390D c1be70C 11e2390D dd6df0C 1027410D caf8f0C 114e910D e6a870C f93990D 114ccf0C
     8a7b90D 14c2bf0C a62b10D 139b6f0C af6590D 1307c70C af6590D 32c0df0C 780690D 167db70C
     780690D 167db70C 780690D 139b6f0C cb1510D 114ccf0C cb1510D 114ccf0C cb1510D 114ccf0C
     d44f90D / 7e7 4 1 6 17bb0 -3840 9 1 6 189c0 -2a30"),
  ("America/Santo_Domingo", "-4188,-41a0,-4650,-3840,-3f48 -9678e2f8B 51582558C 3f290970D
     9f7770C 5002e90E 9b89f8C 1445808E 72ab78C 1767108E 6c13f8C 173ce08E 6eb6f8C 1712b08E
     700878C 16fd988D 30eb2690C 2e2480D"),
  ("America/Sao_Paulo", "-2bb4,-2a30,-1c20 -69558d4cB 2164d72cC edf6c0B f3f390C ed3ff0B
     1f5a3a10C b34c00B 12de780C 9f7770B 141bc10C a0c8f0B 141bc10C 7698f0B 1405d610C ab54f0B
     1bb0610C 4dba70B 1430d90C 7698f0B 1430d90C 9e25f0B 1430d90C 9f7770B 213e1090C af4970B
     1275e10C 9399f0B 14d9990C 8a5f70B 14c4810C 8a5f70B 1558290C 9cd470B 14c4810C 9cd470B
     1430d90C 9399f0B 1558290C 8124f0B 1558290C a60ef0B 139d310C a60ef0B 139d310C 9cd470B
     139d310C af4970B 131ea10C c06cf0B 1275e10C af4970B 1275e10C c1be70B 1275e10C af4970B
     139d310C a60ef0B 1558290C 8a5f70B 1430d90C 9cd470B 1582590C 90f6f0B 139d310C a60ef0B
     1558290C 9399f0B 1309890C a60ef0B 1430d90C 9cd470B 1430d90C a60ef0B 139d310C a60ef0B
     139d310C af4970B 139d310C 9cd470B 1430d90C 9cd470B 1430d90C a60ef0B 139d310C a60ef0B
     139d310C a60ef0B 139d310C a60ef0B 1558290C 8a5f70B"),
  ("America/Scoresbysund", "-1498,-1c20,-e10,0 -647fb3e8B 77cd2228C e6b680B efd4e0D efe2f0C
     eff100D eff100C eff100D eff100C eff100D f92b80C eff100D eff100C eff100D eff100C eff100D
     eff100C eff100D eff100C eff100D eff100C eff100D f92b80C eff100D eff100C eff100D eff100C
     eff100D eff100C eff100D eff100C eff100D eff100C f92b80D 114db00C cb0700D 114db00C cb0700D
     114db00C cb0700D 11e1580C c1cc80D 11e1580C c1cc80D 11e1580C cb0700D 114db00C cb0700D
     114db00C cb0700D 11e1580C c1cc80D 11e1580C c1cc80D 11e1580C c1cc80D 11e1580C cb0700D
     114db00C cb0700D 114db00C cb0700D 11e1580C c1cc80D 11e1580C c1cc80D 11e1580C cb0700D
     114db00C cb0700D 114db00C cb0700D 114db00C cb0700D 11e1580C c1cc80D 11e1580C c1cc80D
     11e1580C cb0700D 114db00C cb0700D 114db00C cb0700D 11e1580C c1cc80D 11e1580C c1cc80D
     11e1580C 1dfe200B / 7e9 3 5 0 e10 -e10 a 5 0 e10 -1c20"),
  ("America/Sitka", "d2a7,-7ed9,-7080,-6270,-7e90 -c03d022fB 3dc435c8C 4e01e707D 6d80b70C
     2c572110D efe2f0C efff10D efe2f0C efff10D f91d70C efff10D efe2f0C efff10D efe2f0C 5c5710D
     1838af0C 9cf090D 142f170C efff10D f91d70C e6c490D f91d70C efff10D efe2f0C efff10D efe2f0C
     efff10D efe2f0C efff10D efe2f0C efff10D f91d70C e6c490D f91d70E f00d20C efe2f0E efff10C
     efe2f0E efff10C efe2f0E d44f90C 10b9270E d44f90C 114ccf0E cb1510C 114ccf0E cb1510C 114ccf0E
     d44f90C 10b9270E d44f90C 10b9270E d44f90C 114ccf0E cb1510C 114ccf0E cb1510C 114ccf0E
     d44f90C 10b9270E d44f90C 10b9270E d44f90C 10b9270E d44f90C 114ccf0E cb1510C 114ccf0E
     cb1510C 114ccf0E d44f90C 10b9270E d44f90C 10b9270E d44f90C 114ccf0E cb1510C 114ccf0E
     cb1510C 114ccf0E / 7d7 3 2 0 9ab0 -7080 b 1 0 8ca0 -7e90"),
  ("America/St_Johns", "-316c,-235c,-3138,-2328,-1518 -63309df4B d584f0A 1139790B 10257f0A
     fbb260B 827670A 15c1a10B efe2f0A efff10B efe2f0A f93990B e6a870A f93990B e6a870A f93990B
     e6a870A f93990B e6a870A f93990B efe2f0A efff10B efe2f0A f93990B e6a870A f93990B e6a870A
     f93990B e6a870A f93990B e6a870A f93990B efe2f0A f93990B e6a870A f93990B e6a870A c88020C
     30b93cD e6a870C 1028220D c1be70C 11e2390D c1be70C 11e2390D c1be70C 1275e10D b883f0C
     1275e10D c1be70C 11e2390D c1be70C 11e2390D 6602f10C 1275e10D c1be70C 11e2390D c1be70C
     11e2390D c1be70C 11e2390D c1be70C 1275e10D c1be70C 10bae90D caf8f0C 114e910D caf8f0C
     114e910D caf8f0C 114e910D caf8f0C 114e910D caf8f0C 11e2390D caf8f0C 114e910D caf8f0C
     114e910D caf8f0C 114e910D caf8f0C 114e910D f91d70C efff10D efe2f0C efff10D efe2f0C efff10D
     efe2f0C efff10D efe2f0C efff10D f91d70C e6c490D f91d70C efff10D efe2f0C efff10D efe2f0C
     efff10D efe2f0C efff10D efe2f0C efff10D f91d70C efff10D efe2f0C efff10D efe2f0C efff10D
     efe2f0C efff10D efe2f0C efff10D f91d70C e6c490D f91d70C efff10D efe2f0C efff10D efe2f0C
     efff10D efe2f0C efff10D efe2f0C efff10D f91d70C e6c490D f91d70C efff10D efe2f0C efff10D
     efe2f0C efff10D efe2f0C d433acD 10b9270C d44f90E 114bee0C cb2320D 114ccf0C cb1510D 114ccf0C
     d44f90D 10b9270C d44f90D 10b9270C d44f90D 114ccf0C cb1510D 114ccf0C cb1510D 114ccf0C
     d44f90D 10b9270C d44f90D 10b9270C d44f90D 10b9270C d44f90D 114ccf0C cb1510D 114ccf0C
     cb1510D 114ccf0C d44f90D 10b9270C d44f90D 10b9270C d44f90D 114ccf0C cb1510D 114ccf0C
     cb1510D 114ccf0C af6590D 139b6f0C a62b10D 139b6f0C a62b10D 139b6f0C af6590D 139b6f0C
     a62b10D 139d2d4C / 7dc 3 2 0 4d58 -2328 b 1 0 3f48 -3138"),
  ("America/Swift_Current", "-6518,-6270,-5460 -790269e8B 17bb1978C 10257f0B 2bce0510C 6d80b70B
     114e910C dd6df0B 1027410C caf8f0B 114e910C caf8f0B 114e910C caf8f0B e468c10C efe2f0B
     2cfe110C efe2f0B efff10C caf8f0B 11e2390C c1be70B 13ef6c90C"),
  ("America/Tegucigalpa", "-51c4,-5460,-4650 -5bb3b4bcB 7c4e919cC c1be70B 11e2390C c1be70B
     21210f90C 793bf0B"),
  ("America/Thule", "-407c,-3840,-2a30 -647f8804B 8c7502e4C efe2f0B efff10C efe2f0B f93990C
     114ccf0B cb1510C 114ccf0B cb1510C 114ccf0B d44f90C 10b9270B d44f90C 10b9270B d44f90C
     10b9270B d44f90C 114ccf0B cb1510C 114ccf0B cb1510C 114ccf0B d44f90C 10b9270B d44f90C
     10b9270B d44f90C 114ccf0B cb1510C 114ccf0B cb1510C 114ccf0B / 7d7 3 2 0 5460 -2a30 b 1 0
     4650 -3840"),
  ("America/Tijuana", "-6db4,-6270,-7080 -5a491790B 3c26700C 677ea10B 6752af0C b4ab90B efe2f0C
     13df9a90B 6b32170C 47daa10B 1765bf0C 26e5210B c06cf0C 11e3fb0B caf8f0C 114e910B caf8f0C
     114db00B cb0700C 114db00B cb0700C 114db00B cb0700C 11e1580B cb0700C 114db00B cb0700C
     114db00B cb0700C 114db00B cb0700C 114db00B cb0700C 11e1580B c1cc80C 11e1580B eff100C
     eff100B eff100C eff100B eff100C eff100B f92b80C e6b680B f92b80C efff10B efe2f0C efff10B
     efe2f0C efff10B efe2f0C efff10B efe2f0C efff10B f91d70C efff10B efe2f0C efff10B efe2f0C
     5c5710B 1838af0C 9cf090B 142f170C efff10B f91d70C e6c490B f91d70C efff10B efe2f0C efff10B
     efe2f0C efff10B efe2f0C efff10B efe2f0C efff10B f91d70C e6c490B f91d70C efff10B efe2f0C
     efff10B efe2f0C efff10B efe2f0C d44f90B 10b9270C d44f90B 114ccf0C cb1510B 114ccf0C cb1510B
     114ccf0C d44f90B 10b9270C d44f90B 10b9270C d44f90B 114ccf0C cb1510B 114ccf0C cb1510B
     114ccf0C d44f90B 10b9270C d44f90B 10b9270C d44f90B 10b9270C d44f90B 114ccf0C cb1510B
     114ccf0C cb1510B 114ccf0C d44f90B 10b9270C d44f90B 10b9270C d44f90B 114ccf0C cb1510B
     114ccf0C cb1510B 114ccf0C cb1510B 114ccf0C d44f90B 10b9270C d44f90B 10b9270C / 7da 3 2 0
     8ca0 -6270 b 1 0 7e90 -7080"),
  ("America/Toronto", "-4a6c,-4650,-3840 -8d118714B 2bca1a84C 10257f0B cc4368C 1138278B f955b0C
     c1a250B 130b4b0C a21a70B 13dc790C a60ef0B 139d310C a60ef0B 1309890C b883f0B 1275e10C
     b883f0B 1275e10C b883f0B 1275e10C c1be70B 11e2390C caf8f0B 114e910C caf8f0B 114e910C
     caf8f0B 114e910C caf8f0B 11e2390C c1be70B 11e2390C caf8f0B 114e910C caf8f0B 114e910C
     caf8f0B 114e910C caf8f0B 114e910C caf8f0B 114e910C caf8f0B 11e2390C c1be70B 11e2390C
     a339d70B 114e910C caf8f0B 114e910C caf8f0B 114e910C caf8f0B 114e910C 11e0770B cb1510C
     114ccf0B cb1510C caf8f0B 114e910C caf8f0B 114e910C caf8f0B 114e910C caf8f0B 114e910C
     caf8f0B 11e2390C caf8f0B 114e910C efe2f0B efff10C efe2f0B efff10C efe2f0B efff10C f91d70B
     efff10C efe2f0B efff10C efe2f0B efff10C efe2f0B efff10C efe2f0B efff10C f91d70B e6c490C
     f91d70B efff10C efe2f0B efff10C efe2f0B efff10C efe2f0B efff10C efe2f0B efff10C f91d70B
     efff10C efe2f0B efff10C efe2f0B efff10C efe2f0B efff10C efe2f0B efff10C f91d70B e6c490C
     f91d70B efff10C efe2f0B efff10C efe2f0B efff10C efe2f0B efff10C efe2f0B efff10C f91d70B
     e6c490C f91d70B efff10C efe2f0B efff10C efe2f0B efff10C efe2f0B d44f90C 10b9270B d44f90C
     114ccf0B cb1510C 114ccf0B cb1510C 114ccf0B d44f90C 10b9270B d44f90C 10b9270B d44f90C
     114ccf0B cb1510C 114ccf0B cb1510C 114ccf0B d44f90C 10b9270B d44f90C 10b9270B d44f90C
     10b9270B d44f90C 114ccf0B cb1510C 114ccf0B cb1510C 114ccf0B d44f90C 10b9270B d44f90C
     10b9270B d44f90C 114ccf0B cb1510C 114ccf0B cb1510C 114ccf0B / 7d7 3 2 0 6270 -3840 b 1 0
     5460 -4650"),
  ("America/Vancouver", "-736c,-7080,-6270 -a1c28914B 407b46b4C 10257f0B 2bce0510C 6d80b70B
     114e910C caf8f0B 114e910C caf8f0B 114e910C caf8f0B 114e910C caf8f0B 11e2390C c1be70B
     11e2390C caf8f0B 114e910C caf8f0B 114e910C caf8f0B 114e910C caf8f0B 114e910C caf8f0B
     11e2390C caf8f0B 114e910C caf8f0B 114e910C caf8f0B 114e910C caf8f0B 114e910C caf8f0B
     11e2390C c1be70B 11e2390C efe2f0B efff10C efe2f0B efff10C efe2f0B efff10C f91d70B e6c490C
     f91d70B efff10C efe2f0B efff10C efe2f0B efff10C efe2f0B efff10C efe2f0B efff10C f91d70B
     efff10C efe2f0B efff10C efe2f0B efff10C efe2f0B efff10C efe2f0B efff10C f91d70B e6c490C
     f91d70B efff10C efe2f0B efff10C efe2f0B efff10C efe2f0B efff10C efe2f0B efff10C f91d70B
     e6c490C f91d70B efff10C efe2f0B efff10C efe2f0B efff10C efe2f0B d44f90C 10b9270B d44f90C
     114ccf0B cb1510C 114ccf0B cb1510C 114ccf0B d44f90C 10b9270B d44f90C 10b9270B d44f90C
     114ccf0B cb1510C 114ccf0B cb1510C 114ccf0B d44f90C 10b9270B d44f90C 10b9270B d44f90C
     10b9270B d44f90C 114ccf0B cb1510C 114ccf0B cb1510C 114ccf0B d44f90C 10b9270B d44f90C
     10b9270B d44f90C 114ccf0B cb1510C 114ccf0B cb1510C 114ccf0B / 7d7 3 2 0 8ca0 -6270 b 1 0
     7e90 -7080"),
  ("America/Whitehorse", "-7e9c,-7e90,-7080,-6270 -82797564B 21324114C 10257f0B 114e910C d2c5d0B
     29e65630C 6d80b70B 24ce4270D f92b80B 9ce280C 1aa3ed90D efe2f0C efff10D efe2f0C efff10D
     f91d70C e6c490D f91d70C efff10D efe2f0C efff10D efe2f0C efff10D efe2f0C d44f90D 10b9270C
     d44f90D 114ccf0C cb1510D 114ccf0C cb1510D 114ccf0C d44f90D 10b9270C d44f90D 10b9270C
     d44f90D 114ccf0C cb1510D 114ccf0C cb1510D 114ccf0C d44f90D 10b9270C d44f90D 10b9270C
     d44f90D 10b9270C d44f90D 114ccf0C cb1510D 114ccf0C cb1510D 114ccf0C d44f90D 10b9270C
     d44f90D 10b9270C d44f90D 114ccf0C cb1510D 114ccf0C cb1510D 114ccf0C af6590D 139b6f0C
     a62b10D 139b6f0C a62b10D 139b6f0C af6590D 139b6f0C a62b10D 139b6f0C a62b10D 139b6f0C
     a62b10D 139b6f0C a62b10D 139b6f0C a62b10D 139b6f0C af6590D 139b6f0C a62b10D 139b6f0C
     a62b10D 139b6f0C a62b10D 139b6f0C a62b10D"),
  ("America/Winnipeg", "-5b14,-5460,-4650 -9b1b4f6cB 361d4b4cC c1be70B 2f4e730C 10257f0B
     22e54210C af4970B 8397990C 6d80b70B 1275e10C caf8f0B 1027410C caf8f0B 114e910C caf8f0B
     114e910C caf8f0B 11f7510C c855f0B 1163a90C caf8f0B 114e910C caf8f0B 114e910C caf8f0B
     114e910C caf8f0B 114e910C caf8f0B 11e2390C caf8f0B 114e910C caf8f0B 114e910C caf8f0B
     114e910C efe2f0B efff10C caf8f0B 4dde790C c1be70B 4dde790C f92b80B eff100C eff100B eff100C
     eff100B eff100C eff100B eff100C eff100B eff100C f92b80B eff100C eff100B eff100C eff100B
     eff100C eff100B eff100C eff100B eff100C f92b80B e6b680C f92b80B eff100C eff100B eff100C
     eff100B eff100C eff100B eff100C eff100B eff100C f92b80B e6b680C f92b80B eff100C eff100B
     eff100C eff100B eff100C eff100B d44180C 10ba080B d44180C 114db00B cb0700C 114db00B cb0700C
     114db00B d44180C 10ba080B d44180C 10ba080B d44180C 114db00B cb0700C 114db00B cb0700C
     114db00B d44180C 10ba080B d44180C 10ba080B d44180C 10ba080B d44180C 114db00B cb0700C
     114db00B cb0700C 114db00B d44180C 10ba080B d44180C 10ba080B d44180C 114db00B cb0700C
     114db00B cb0700C 114ccf0B / 7d7 3 2 0 7080 -4650 b 1 0 6270 -5460"),
  ("America/Yakutat", "ce81,-82ff,-7e90,-7080 -c03d022fB 3dc439eeC 4e01f0f1D 6d80b70C 2c572110D
     efe2f0C efff10D efe2f0C efff10D f91d70C efff10D efe2f0C efff10D efe2f0C 5c5710D 1838af0C
     9cf090D 142f170C efff10D f91d70C e6c490D f91d70C efff10D efe2f0C efff10D efe2f0C efff10D
     efe2f0C efff10D efe2f0C efff10D f91d70C e6c490D f91d70C efff10D efe2f0C efff10D efe2f0C
     efff10D efe2f0C d44f90D 10b9270C d44f90D 114ccf0C cb1510D 114ccf0C cb1510D 114ccf0C d44f90D
     10b9270C d44f90D 10b9270C d44f90D 114ccf0C cb1510D 114ccf0C cb1510D 114ccf0C d44f90D
     10b9270C d44f90D 10b9270C d44f90D 10b9270C d44f90D 114ccf0C cb1510D 114ccf0C cb1510D
     114ccf0C d44f90D 10b9270C d44f90D 10b9270C d44f90D 114ccf0C cb1510D 114ccf0C cb1510D
     114ccf0C / 7d7 3 2 0 9ab0 -7080 b 1 0 8ca0 -7e90"),
  ("Antarctica/Casey", "0,7080,9ab0 -1e13380B 4cbb39a0C b5c4d0B 319d130C 9a3170B 8c66df0C
     299d390B 1150530C d40940B 10927b0C cd7fd0B 114db3cC d41714B 10bcaecC d41714B 10bcaecC
     d04cc4B"),
  ("Antarctica/Davis", "0,6270,4650 -1863c000B eab9f10A 7ffcbf0B 4c926930C bde610B 311aff0C
     9a4d90B"),
  ("Antarctica/Macquarie", "0,8ca0,9ab0 -83faea00B 1fd06280C e6b680B 3cb8560A 3684b3a0B
     24b62500C eff100B 114db00C af5780B 1308a80C af5780B 1308a80C b89200B 1308a80C 9ce280B
     142ff80C a61d00B 139c500C a61d00B 139c500C a61d00B 139c500C af5780B 139c500C a61d00B
     139c500C a61d00B 139c500C a61d00B 139c500C a61d00B 139c500C a61d00B 139c500C cb0700B
     11e1580C c1cc80B 11e1580C a61d00B 139c500C a61d00B 139c500C a61d00B 1308a80C c1cc80B
     1275000C c1cc80B 1275000C b89200B 1275000C b89200B 1275000C cb0700B f92b80C e6b680B f92b80C
     e6b680B f92b80C e6b680B f92b80C e6b680B f92b80C eff100B f92b80C e6b680B f92b80C e6b680B
     f92b80C e6b680B f92b80C e6b680B cb0700C 114db00B 1026600C e6b680B f92b80C e6b680B f92b80C
     e6b680B f92b80C e6b680B f92b80C eff100B eff100C e6b680B 1026600C eff100B eff100C eff100B
     eff100C / 7db 4 1 0 -7080 8ca0 a 1 0 -7080 9ab0"),
  ("Antarctica/Mawson", "0,5460,4650 -1ddfcd80B 68b9efc0C"),
  ("Antarctica/Palmer", "0,-2a30,-3840,-1c20 -9675300B 4df2b0C 12ca410B b48f70C 12ca410B debf70C
     efff10B f91d70C efff10B efe2f0C efff10B 8171670D 8124f0B f0c4d10C d5a110B caf8f0C 114e910B
     caf8f0C 11e2390B c1be70C 11e2390B c1be70C 11e2390B efe2f0C efff10B caf8f0C 114e910B caf8f0C
     11e2390B c1be70C f93990B e6a870C 11e2390B caf8f0C 114e910B caf8f0C 114e910B caf8f0C
     114e910B caf8f0C 11e2390B c1be70C 11e2390B dd6df0C 1027410B caf8f0C 1027410B f91d70C
     f93990B caf8f0C 11e2390B c1be70C 11e2390B c1be70C 11e2390B c1be70C 11e2390B caf8f0C
     114e910B caf8f0C 114e910B caf8f0C 11e2390B c1be70C 11e2390B dd6df0C 1027410B caf8f0C
     114e910B e6a870C f93990B 114ccf0C 8a7b90B 14c2bf0C a62b10B 139b6f0C af6590B 1307c70C
     af6590B 32c0df0C 780690B"),
  ("Antarctica/Rothera", "0,-2a30 d022d00B"),
  ("Antarctica/Troll", "0 / 7d5 3 5 0 e10 1c20 a 5 0 e10 0"),
  ("Antarctica/Vostok", "0,6270,4650 -16a77680B 43f4af90A 1684bf0B 36c9c030C"),
  ("Asia/Almaty", "4824,4650,5460,6270 -55e68424B b8a7354C 5f838e70D f13470C efff10D f13470C
     efff10D f13470C f15090D f00d20C eff100D eff100C eff100D eff100C eff100D eff100C eff100D
     eff100C eff100D eff100C eff100D f92b80C 1dff010B 93a800C 5c3af0D eff100C eff100D eff100C
     eff100D eff100C eff100D eff100C f92b80D 114db00C cb0700D 114db00C cb0700D 114db00C cb0700D
     11e1580C c1cc80D 11e1580C c1cc80D 11e1580C cb0700D 114db00C cb0700D 114db00C cb0700D
     11e1580C 245cd360B"),
  ("Asia/Amman", "21b0,1c20,2a30 -495c2930B 4fcea310C 9a3170B 1178c10C c9a770B 1178c10C c9a770B
     118dd90C f285f0B eead90C c9a770B 1163a90C c9a770B c3b2890C f13470B f3f390C efe2f0B efff10C
     efe2f0B efff10C f91d70B 118dd90C c70470B 10bae90C d43370B ffd110C d6d670B 1027410C e6a870B
     efff10C efe2f0B efff10C dd6df0B 10bae90C d44180B 10ba080C dd7c00B 1026600C dd7c00B 1026600C
     dd7c00B 1790d00C 700f80B f7da00C f14280B ee9f80C f14280B eff100C eff100B eff100C 114db00B
     cb0700C 10ba080B dd7c00C eff100B eff100C 114db00B cb0700C 114db00B cb0700C 11e1580B c1cc80C
     11e1580B c1cc80C 11e1580B cb0700C 114db00B cb0700C 33e82f0B 814110C 11e1580B c1cc80C
     11e1580B cb0700C 114db00B cb0700C 114db00B cb0700C 114db00B cb0700C 114db00B cb0700C
     11e1580B c1cc80C 11e1580B 9ce280C"),
  ("Asia/Anadyr", "a664,a8c0,b6d0,c4e0,9ab0 -55e6e264B b8a6f24C 5f838e70D f13470C 1e14190B
     efff10C f13470B f15090C f00d20B eff100C eff100B eff100C eff100B eff100C eff100B eff100C
     eff100B eff100C eff100B eff100C f92b80B 1dff010E 93a800B 5c3af0C eff100B eff100C eff100B
     eff100C eff100B eff100C eff100B f92b80C 114db00B cb0700C 114db00B cb0700C 114db00B cb0700C
     11e1580B c1cc80C 11e1580B c1cc80C 11e1580B cb0700C 114db00B cb0700C 114db00B cb0700C
     11e1580B c1cc80C 11e1580B c1cc80C 11e1580B c1cc80C 11e1580B cb0700C 114db00B cb0700C
     114db00B 1e92a90E c1cc80B"),
  ("Asia/Aqtau", "2f20,3840,4650,5460 -55e66b20B b8a6860C 6074d0f0D 1e12570C efff10D f13470C
     f15090D f00d20C eff100D eff100C eff100D eff100C eff100D eff100C eff100D eff100C eff100D
     eff100C eff100D f92b80C 1dff010B 93a800C 5c3af0D eff100C eff100D eff100C eff100D eff100B
     efff10C eff100B f92b80C 114db00B cb0700C 114db00B cb0700C 114db00B cb0700C 11e1580B c1cc80C
     11e1580B c1cc80C 11e1580B cb0700C 114db00B cb0700C 114db00B cb0700C"),
  ("Asia/Aqtobe", "3598,3840,4650,5460 -55e67198B b8a6ed8C 5f838e70D 2d267f0C efff10D f13470C
     f15090D f00d20C eff100D eff100C eff100D eff100C eff100D eff100C eff100D eff100C eff100D
     eff100C eff100D f92b80C 1dff010B 93a800C 5c3af0D eff100C eff100D eff100C eff100D eff100C
     eff100D eff100C f92b80D 114db00C cb0700D 114db00C cb0700D 114db00C cb0700D 11e1580C c1cc80D
     11e1580C c1cc80D 11e1580C cb0700D 114db00C cb0700D 114db00C cb0700D 11e1580C"),
  ("Asia/Ashgabat", "36bc,3840,4650,5460 -55e672bcB b8a6ffcC 5f838e70D f13470C efff10D f13470C
     efff10D f13470C f15090D f00d20C eff100D eff100C eff100D eff100C eff100D eff100C eff100D
     eff100C eff100D eff100C eff100D f92b80C 1dff010B 93a800C"),
  ("Asia/Atyrau", "30b0,2a30,4650,5460,3840 -55e66cb0B b8a7800C 6074c2e0D 1e12570C efff10D
     f13470C f15090D f00d20C eff100D eff100C eff100D eff100C eff100D eff100C eff100D eff100C
     eff100D eff100C eff100D f92b80C 1dff010E 93a800C 5c3af0D eff100C eff100D eff100C eff100D
     eff100C eff100D eff100C f92b80D 114db00C cb0700D 114db00C cb0700D 114db00C 1e92a90E c1cc80C
     11e1580E c1cc80C 11e1580E cb0700C 114db00E cb0700C 114db00E cb0700C"),
  ("Asia/Baghdad", "29a4,29a0,2a30,3840 -96794e24B 34a98b04C 79002b70D c9a770C eead90D f285f0C
     f15090D f13470C efff10D eead90C eff100D eff100C eff100D eff100C eff100D eff100C eff100D
     eff100C eff100D f92b80C f15ea0D f14280C f14280D f14280C eff100D f14280C eff100D f14280C
     eff100D f14280C f14280D f14280C eff100D f14280C eff100D f14280C eff100D f14280C f14280D
     f14280C eff100D f14280C eff100D f14280C eff100D f14280C f14280D f14280C eff100D f14280C
     eff100D f14280C eff100D f14280C"),
  ("Asia/Baku", "2ebc,2a30,3840,4650 -55e66abcB 3dc0770cC 2d4d8d70D f13470C efff10D f13470C
     efff10D f13470C f15090D f00d20C eff100D eff100C eff100D eff100C eff100D eff100C eff100D
     eff100C eff100D eff100C eff100D f92b80C 1dff010B eff100C 788dea0D 114db00C caf8f0D 114db00C
     cb0700D 114db00C cb0700D 11e1580C c1cc80D 11e1580C c1cc80D 11e1580C cb0700D 114db00C
     cb0700D 114db00C cb0700D 11e1580C c1cc80D 11e1580C c1cc80D 11e1580C c1cc80D 11e1580C
     cb0700D 114db00C cb0700D 114db00C cb0700D 11e1580C c1cc80D 11e1580C c1cc80D 11e1580C
     cb0700D 114db00C cb0700D 114db00C cb0700D 114db00C"),
  ("Asia/Bangkok", "5e3c,6270 -5d95983cB"),
  ("Asia/Barnaul", "4e84,5460,6270,7080 -5e2a8204B 13ce6324C 5f838e70D f13470C efff10D f13470C
     efff10D f13470C f15090D f00d20C eff100D eff100C eff100D eff100C eff100D eff100C eff100D
     eff100C eff100D eff100C eff100D f92b80C 1dff010B 93a800C 5c3af0D eff100C eff100D eff100C
     eff100D eff100C eff100D 52e450C 9d1ac0B f92b80C 114db00B cb0700C 114db00B cb0700C 114db00B
     cb0700C 11e1580B c1cc80C 11e1580B c1cc80C 11e1580B cb0700C 114db00B cb0700C 114db00B
     cb0700C 11e1580B c1cc80C 11e1580B c1cc80C 11e1580B c1cc80C 11e1580B cb0700C 114db00B
     cb0700C 114db00B cb0700C 11e1580B c1cc80C 6bdad70B 2aaf710C"),
  ("Asia/Beirut", "2148,1c20,2a30 -a9493d48B 4baea128C 1161e70B d2fe10C f13470B e57310C 10257f0B
     1027410C c1be70B 3f3ed390C c9a770B 1178c10C c9a770B 1178c10C c9a770B 118dd90C c9a770B
     1178c10C c9a770B 142c1190C 851970B 1178c10C c9a770B 1178c10C c9a770B 1178c10C c9a770B
     118dd90C c9a770B 1178c10C c9a770B 1163a90C c9a770B a818210C dd6df0B 103c590C dd6df0B
     103c590C dd6df0B 103c590C dd6df0B 12df590C b48f70B 10fa310C d19070B 103c590C dd6df0B
     103c590C dd6df0B 1051710C cd9bf0B e6c490C efe2f0B efff10C efe2f0B efff10C efe2f0B f93990C
     efe2f0B efff10C efe2f0B efff10C efe2f0B / 7cf 3 5 0 -1c20 2a30 a 5 0 -2a30 1c20"),
  ("Asia/Bishkek", "45f0,4650,5460,6270 -55e681f0B b8a7120C 5f838e70D f13470C efff10D f13470C
     efff10D f13470C f15090D f00d20C eff100D eff100C eff100D eff100C eff100D eff100C eff100D
     eff100C eff100D eff100C eff100D f92b80C 1b9a680B 1289370C dd6df0B 1027410C dd6df0B 1027410C
     dd6df0B 1027410C dd6df0B 1027410C e6a870B f02238C 114ccf0B cb1510C 114ccf0B cb1510C
     11e0770B c1da90C 11e0770B c1da90C 11e0770B cb1510C 114ccf0B cb1510C 114ccf0B cb1510C
     11e0770B c1da90C"),
  ("Asia/Chita", "6a60,7080,7e90,8ca0 -5e240660B 13c7cb60C 5f838e70D f13470C efff10D f13470C
     efff10D f13470C f15090D f00d20C eff100D eff100C eff100D eff100C eff100D eff100C eff100D
     eff100C eff100D eff100C eff100D f92b80C 1dff010B 93a800C 5c3af0D eff100C eff100D eff100C
     eff100D eff100C eff100D eff100C f92b80D 114db00C cb0700D 114db00C cb0700D 114db00C cb0700D
     11e1580C c1cc80D 11e1580C c1cc80D 11e1580C cb0700D 114db00C cb0700D 114db00C cb0700D
     11e1580C c1cc80D 11e1580C c1cc80D 11e1580C c1cc80D 11e1580C cb0700D 114db00C cb0700D
     114db00C cb0700D 11e1580C c1cc80D 6bdad70B 2ab0520C"),
  ("Asia/Colombo", "4adc,4ae4,4d58,5460,5b68 -a94966dcB 30e723f8C 43bc5f0cD 13b0f78E 5e05498C
     5f307ff0E cafff8D 11ceea08C"),
  ("Asia/Damascus", "2208,1c20,2a30 -5e0d5488B 8e8408C dd6df0B 1027410C dd6df0B 1027410C dd6df0B
     1027410C e6a870B 4887d410C cc4a70B 1178c10C c855f0B 11a2f10C c9a770B 1178c10C c855f0B
     10fa310C d2e1f0B 1178c10C c9a770B 118dd90C c9a770B 1178c10C c9a770B 1178c10C c9a770B
     1178c10C c9a770B 118dd90C c9a770B 1178c10C c9a770B 1178c10C c9a770B 1178c10C c9a770B
     118dd90C c9a770B 1178c10C a21a70B 13f1910C a21a70B 8a83790C e6a870B fbdc90C e6a870B
     2973090C 135c270B bc9490C 1419ff0B b35a10C 12f2af0B c72090C f285f0B efff10C efe2f0B f13470C
     f13470B fa8b10C e7f9f0B e81610C f13470B f7e810C f13470B efff10C f13470B f15090C f13470B
     eead90C f285f0B ed5c10C f3d770B efff10C f13470B f15090C f13470B efff10C f13470B efff10C
     f13470B efff10C f13470B f15090C f13470B efff10C f13470B efff10C e556f0B f93990C 11e0770B
     cb1510C 1161e70B c08910C 11e0770B cb1510C 114ccf0B cb1510C 114ccf0B cb1510C 114ccf0B
     cb1510C 114ccf0B cb1510C 11e0770B c1da90C 11e0770B c1da90C 11e0770B cb1510C 114ccf0B
     cb1510C 114ccf0B cb1510C 114ccf0B cb1510C 11e0770B c1da90C 11e0770B c1da90C"),
  ("Asia/Dhaka", "54c4,52d0,5b68,4d58,5460,6270 -96797944B 6154fff4C 129ea68D 8fc190C 11139ff0E
     6c92f178F 1011480E"),
  ("Asia/Dili", "75bc,7080,7e90 -6d19e200B 38b314f0C 4050fd80B 2dd96890C"),
  ("Asia/Dubai", "33d8,3840 -5e0d6658B"),
  ("Asia/Dushanbe", "4080,4650,5460,6270 -55e67c80B b8a6bb0C 5f838e70D f13470C efff10D f13470C
     efff10D f13470C f15090D f00d20C eff100D eff100C eff100D eff100C eff100D eff100C eff100D
     eff100C eff100D eff100C eff100D f92b80C 1c59210B"),
  ("Asia/Famagusta", "1fd4,1c20,2a30 -5a88e1d4B 647691b4C efe2f0B 11cd210C c46170B e57310C
     e6a870B f93990C f13470B eead90C efe2f0B f93990C e6a870B efff10C efe2f0B efff10C efe2f0B
     efff10C efe2f0B efff10C f91d70B efff10C efe2f0B efff10C efe2f0B efff10C efe2f0B efff10C
     efe2f0B efff10C efe2f0B efff10C f91d70B efff10C efe2f0B efff10C efe2f0B efff10C efe2f0B
     efff10C efe2f0B efff10C efe2f0B f93990C efe2f0B efff10C efe2f0B efff10C 1150530B cb0700C
     11e1580B c1cc80C 11e1580B c1cc80C 11e1580B cb0700C 114db00B cb0700C 114db00B cb0700C
     11e1580B c1cc80C 11e1580B c1cc80C 11e1580B c1cc80C 11e1580B cb0700C 114db00B cb0700C
     114db00B cb0700C 11e1580B c1cc80C 11e1580B c1cc80C 11e1580B cb0700C 114db00B cb0700C
     114db00B cb0700C 114db00B cb0700C 2fdf780B / 7e2 3 5 0 e10 2a30 a 5 0 e10 1c20"),
  ("Asia/Gaza", "2050,1c20,2a30 -8242b550B 4a9c8450C a0d700B 3df680C 3ad4f00B c71280C 11a2100B
     c86400C 11a2100B dad900C 1065a80B dad900C 1065a80B 13ca5860C bdc9f0B 1178c10C c9a770B
     1179a20C c87210B 11a12f0C c87210B 118c170C c87210B 118c170C c87210B 118c170C c87210B
     11a12f0C c87210B 118c170C c87210B 118c170C c9c390B 1176ff0C 2e0860B d554990C 8124f0B
     f93990C af4970B 943c890C 375f00B 6d96b00C 93a800B 1308a80C b883f0B 1558290C 9399f0B
     1221810C c70470B 114e910C c1be70B 139d310C a60ef0B 10bae90C caf8f0B 114e910C d43370B
     114e910C d43370B 1124610C cd9bf0B 1124610C c46170B 11b8090C cd9bf0B 11b8090C dd7c00B
     1026600C dd7c00B 1026600C dd7c00B 114db00C efe2f0B f93990C efe2f0B efff10C efe2f0B efff10C
     efe2f0B efff10C efe2f0B efff10C dd7c00B 1026600C e2d010B ebee70C e556f0B fbdc90C d99590B
     103a970C caf8f0B 114e910C d44180B 10cf23cC b48f34B 1333bccC a0c8b4B 13f1910C e6b680B
     f92b80C efe2f0B efff10C 114ccf0B cc6690C 1138980B cc6690C 11e0770B c1da90C 11e0770B c1da90C
     11e0770B c9b580C 1161e70B cb1510C 114db00B cb0700C 11cc400B c46f80C 11cd210B efff10C
     efe2f0B e6c490C f91d70B dd8a10C 10257f0B cb1510C 114ccf0B cb1510C 11e0770B c1da90C 11e0770B
     c1da90C 11e0770B cb1510C 114ccf0B cb1510C 114ccf0B cb1510C 11e0770B c1da90C 11e0770B
     c1da90C 11e0770B c1da90C 11e0770B cb1510C 10b9270B d44f90C 10257f0B dd8a10C efe2f0B efff10C
     e6a870B f93990C d43370B 40a790C 92c70B cb1510C c1be70B 376d10C 1ba170B cb1510C b883f0B
     376d10C 24dbf0B cb1510C a60ef0B 40a790C 2e1670B cb1510C 9cd470B 376d10C 49c5f0B c1da90C
     9399f0B 376d10C 530070B c1da90C 8124f0B 40a790C 5c3af0B cb1510C 6eaff0B 376d10C 6eaff0B
     cb1510C 5c3af0B 40a790C 77ea70B cb1510C 530070B 376d10C 9399f0B c1da90C 49c5f0B 376d10C
     9cd470B c1da90C 3750f0B 40a790C a60ef0B cb1510C 24dbf0B 376d10C b883f0B cb1510C 1266f0B
     40a790C c1be70B cb1510C 92c70B 40a790C caf8f0B 1027410C e6a870B efff10C efe2f0B dd8a10C
     10257f0B d44f90C 10b9270B cb1510C 114ccf0B cb1510C 11e0770B c1da90C 11e0770B c1da90C
     11e0770B c1da90C 11e0770B cb1510C 114ccf0B cb1510C 114ccf0B cb1510C 11e0770B c1da90C
     11e0770B c1da90C 114ccf0B d44f90C 10257f0B dd8a10C f91d70B e6c490C e6a870B f93990C dd6df0B
     376d10C 92c70B c1da90C d43370B 376d10C 1266f0B c1da90C c1be70B 40a790C 1ba170B cb1510C
     af4970B 376d10C 2e1670B cb1510C 9cd470B 40a790C 3750f0B cb1510C 9399f0B 40a790C 49c5f0B
     c1da90C 8a5f70B 376d10C 5c3af0B c1da90C 77ea70B 40a790C 657570B cb1510C 657570B 376d10C
     77ea70B cb1510C 5c3af0B 376d10C 8124f0B cb1510C 49c5f0B 40a790C 8a5f70B cb1510C 408b70B
     376d10C a60ef0B c1da90C 2e1670B 40a790C af4970B c1da90C 24dbf0B 40a790C b883f0B cb1510C
     1266f0B 376d10C caf8f0B / 827 3 4 4 2a300 2a30 a 4 4 294f0 1c20"),
  ("Asia/Hebron", "20e7,1c20,2a30 -8242b5e7B 4a9c84e7C a0d700B 3df680C 3ad4f00B c71280C 11a2100B
     c86400C 11a2100B dad900C 1065a80B dad900C 1065a80B 13ca5860C bdc9f0B 1178c10C c9a770B
     1179a20C c87210B 11a12f0C c87210B 118c170C c87210B 118c170C c87210B 118c170C c87210B
     11a12f0C c87210B 118c170C c87210B 118c170C c9c390B 1176ff0C 2e0860B d554990C 8124f0B
     f93990C af4970B 943c890C 375f00B 6d96b00C 93a800B 1308a80C b883f0B 1558290C 9399f0B
     1221810C c70470B 114e910C c1be70B 139d310C a60ef0B 10bae90C caf8f0B 114e910C d43370B
     114e910C d43370B 1124610C cd9bf0B 1124610C c46170B 11b8090C cd9bf0B 11b8090C dd7c00B
     1026600C dd7c00B 1026600C dd7c00B 114db00C efe2f0B f93990C efe2f0B efff10C efe2f0B efff10C
     efe2f0B efff10C efe2f0B efff10C dd7c00B 1026600C e2d010B ebee70C e556f0B fbdc90C d99590B
     103a970C ceed70B 110f490C d44180B 10ba080C b5e0f0B 1333bccC a0c8b4B 264990C 28d070B efff10C
     e6b680B f92b80C efe2f0B efff10C 114ccf0B cc6690C 1138980B cc6690C 11e0770B c1da90C 11e0770B
     c1da90C 11e0770B c9b580C 1161e70B cb1510C 114db00B cb0700C 11cc400B c46f80C 11cd210B
     efff10C efe2f0B e6c490C f91d70B dd8a10C 10257f0B cb1510C 114ccf0B cb1510C 11e0770B c1da90C
     11e0770B c1da90C 11e0770B cb1510C 114ccf0B cb1510C 114ccf0B cb1510C 11e0770B c1da90C
     11e0770B c1da90C 11e0770B c1da90C 11e0770B cb1510C 10b9270B d44f90C 10257f0B dd8a10C
     efe2f0B efff10C e6a870B f93990C d43370B 40a790C 92c70B cb1510C c1be70B 376d10C 1ba170B
     cb1510C b883f0B 376d10C 24dbf0B cb1510C a60ef0B 40a790C 2e1670B cb1510C 9cd470B 376d10C
     49c5f0B c1da90C 9399f0B 376d10C 530070B c1da90C 8124f0B 40a790C 5c3af0B cb1510C 6eaff0B
     376d10C 6eaff0B cb1510C 5c3af0B 40a790C 77ea70B cb1510C 530070B 376d10C 9399f0B c1da90C
     49c5f0B 376d10C 9cd470B c1da90C 3750f0B 40a790C a60ef0B cb1510C 24dbf0B 376d10C b883f0B
     cb1510C 1266f0B 40a790C c1be70B cb1510C 92c70B 40a790C caf8f0B 1027410C e6a870B efff10C
     efe2f0B dd8a10C 10257f0B d44f90C 10b9270B cb1510C 114ccf0B cb1510C 11e0770B c1da90C
     11e0770B c1da90C 11e0770B c1da90C 11e0770B cb1510C 114ccf0B cb1510C 114ccf0B cb1510C
     11e0770B c1da90C 11e0770B c1da90C 114ccf0B d44f90C 10257f0B dd8a10C f91d70B e6c490C e6a870B
     f93990C dd6df0B 376d10C 92c70B c1da90C d43370B 376d10C 1266f0B c1da90C c1be70B 40a790C
     1ba170B cb1510C af4970B 376d10C 2e1670B cb1510C 9cd470B 40a790C 3750f0B cb1510C 9399f0B
     40a790C 49c5f0B c1da90C 8a5f70B 376d10C 5c3af0B c1da90C 77ea70B 40a790C 657570B cb1510C
     657570B 376d10C 77ea70B cb1510C 5c3af0B 376d10C 8124f0B cb1510C 49c5f0B 40a790C 8a5f70B
     cb1510C 408b70B 376d10C a60ef0B c1da90C 2e1670B 40a790C af4970B c1da90C 24dbf0B 40a790C
     b883f0B cb1510C 1266f0B 376d10C caf8f0B / 827 3 4 4 2a300 2a30 a 4 4 294f0 1c20"),
  ("Asia/Ho_Chi_Minh", "63f6,6270,7080,7e90 -6e5cd4f6B 3b92bb76C 423e7f0D e17080B 2f77c20C
     f843780B 878a570C 1d0e2f00B"),
  ("Asia/Hong_Kong", "6b0a,7080,7e90,7788 -7a969c70B 44e3cda0C 8e6200D 6fde48C 7556d18B caf8f0C
     1278138B af5780C 1308a80B cb0700C eff100B cb0700C 114db00B cb0700C 114db00B cb0700C
     114db00B d44180C 114db00B cb0700C 114ccf0B b8a010C 12741f0B b8a010C 1307c70B af6590C
     1307c70B b8a010C 12741f0B b8a010C 12741f0B b8a010C 12741f0B b8a010C 1307c70B af6590C
     1307c70B af6590C 1307c70B b8a010C 12741f0B b8a010C 12741f0B dd8a10C efe2f0B efff10C efe2f0B
     efff10C f91d70B efff10C efe2f0B efff10C efe2f0B efff10C efe2f0B efff10C efe2f0B efff10C
     f91d70B efff10C efe2f0B 5c5710C 1838af0B efff10C efe2f0B efff10C efe2f0B 4d4ad10C d43370B"),
  ("Asia/Hovd", "55ec,5460,6270,7080 -792c036cB 8837ee0cC 9ddebf0D f13470C f15090D efe2f0C
     efff10D efe2f0C efff10D efe2f0C efff10D efe2f0C efff10D efe2f0C efff10D efe2f0C efff10D
     f91d70C efff10D efe2f0C efff10D efe2f0C efff10D efe2f0C efff10D efe2f0C efff10D efe2f0C
     f93990D efe2f0C efff10D efe2f0C efff10D efe2f0C 4dcb230D caf8f0C efff10D efe2f0C efff10D
     efe2f0C efff10D efe2f0C efff10D efe2f0C efff10D f91d70C ff84990D efc6d0C f01b30D efc6d0C"),
  ("Asia/Irkutsk", "61c1,6270,7080,7e90 -5dedf041B 1391c351C 5f838e70D f13470C efff10D f13470C
     efff10D f13470C f15090D f00d20C eff100D eff100C eff100D eff100C eff100D eff100C eff100D
     eff100C eff100D eff100C eff100D f92b80C 1dff010B 93a800C 5c3af0D eff100C eff100D eff100C
     eff100D eff100C eff100D eff100C f92b80D 114db00C cb0700D 114db00C cb0700D 114db00C cb0700D
     11e1580C c1cc80D 11e1580C c1cc80D 11e1580C cb0700D 114db00C cb0700D 114db00C cb0700D
     11e1580C c1cc80D 11e1580C c1cc80D 11e1580C c1cc80D 11e1580C cb0700D 114db00C cb0700D
     114db00C cb0700D 11e1580C c1cc80D 6bdad70C"),
  ("Asia/Jakarta", "6420,6720,6978,7e90,7080,6270 -56877a20B 109e5880C 11a8a528D 6976ae8C
     4e5d798E 3c25ff8C 19b69888F"),
  ("Asia/Jayapura", "83e8,7e90,8598 -45e93e68B 1641f858C 245ce878B"),
  ("Asia/Jerusalem", "2106,20f8,1c20,2a30,3840 -a9493d06B 4779828eC 2a298978D a0d700C 3df680D
     3ad4f00C c71280D 11a2100C c86400D 11a2100C dad900D 1065a80C dad900D 1065a80C 2ee2580E
     852780D 506b80C ee9f80D f29400C dad900D c86400C 1050900D 1275000C d44180D eff100C e6b680D
     cb0700C 167e980D 77f880C 167e980D 77f880C 15eaf00D 9ce280C 114db00D c1cc80C 1f9411e0D
     8124f0C f93990D af4970C 943c890D 375f00C 6d96b00D 93a800C 1308a80D b883f0C 1558290D 9399f0C
     1221810D c70470C 114e910D c1be70C 139d310D a60ef0C 10bae90D caf8f0C 114e910D d43370C
     114e910D d43370C 1124610D cd9bf0C 1124610D c46170C 11b8090D cd9bf0C ffd110D f3d770C f54510D
     e94b70C f69690D e010f0C 1126230D caf8f0C 1275e10D e69a60C f3f390D dd6df0C f54510D fd11f0C
     e2d010D f91d70C f69690D dd6df0C fbeaa0D fbc070C e42190D f285f0C ed5c10D e010f0C ffd110D
     fbc070C e42190D f285f0C ed5c10D e010f0C 1090b90D f285f0C ed5c10D e94b70C / 7dd 3 4 4 15180
     2a30 a 5 0 -e10 1c20"),
  ("Asia/Kabul", "40e0,3840,3f48 -96796560B 67733ca0C"),
  ("Asia/Kamchatka", "94bc,9ab0,a8c0,b6d0 -58ad693cB e51040cC 5f838e70D f13470C efff10D f13470C
     efff10D f13470C f15090D f00d20C eff100D eff100C eff100D eff100C eff100D eff100C eff100D
     eff100C eff100D eff100C eff100D f92b80C 1dff010B 93a800C 5c3af0D eff100C eff100D eff100C
     eff100D eff100C eff100D eff100C f92b80D 114db00C cb0700D 114db00C cb0700D 114db00C cb0700D
     11e1580C c1cc80D 11e1580C c1cc80D 11e1580C cb0700D 114db00C cb0700D 114db00C cb0700D
     11e1580C c1cc80D 11e1580C c1cc80D 11e1580C c1cc80D 11e1580C cb0700D 114db00C cb0700D
     114db00C 1e92a90B c1cc80C"),
  ("Asia/Karachi", "3edc,4d58,5b68,4650,5460 -7681035cB 43163604C 5dedff0B b34ce10D 5f066508E
     efe2f0D aa27790E c9a770D d99590E 1079df0D"),
  ("Asia/Kathmandu", "4ffc,4d58,50dc -5e0d827cB 7c25b324C"),
  ("Asia/Khandyga", "7f15,7080,7e90,8ca0,9ab0 -5e241b15B 13c7e015C 5f838e70D f13470C efff10D
     f13470C efff10D f13470C f15090D f00d20C eff100D eff100C eff100D eff100C eff100D eff100C
     eff100D eff100C eff100D eff100C eff100D f92b80C 1dff010B 93a800C 5c3af0D eff100C eff100D
     eff100C eff100D eff100C eff100D eff100C f92b80D 114db00C cb0700D 114db00C cb0700D 114db00C
     cb0700D 11e1580C c1cc80D 11e1580C c1cc80D 11e1580C cb0700D 114db00C cb0700D 114db00C
     583860D 72c090E 11e1580D c1cc80E 11e1580D c1cc80E 11e1580D c1cc80E 11e1580D cb0700E
     114db00D cb0700E 114db00D cb0700E 11e1580D c1cc80E dff4d0D 5ddc6b0C"),
  ("Asia/Kolkata", "52d8,52d0,4b46,4d58,5b68 -d945e7d8B 1d2dd308C 43b5d18aD 433dcf6eE 129e4f0D
     8fc190E 5dedff0D"),
  ("Asia/Krasnoyarsk", "570e,5460,6270,7080 -5e06f20eB 13aad32eC 5f838e70D f13470C efff10D
     f13470C efff10D f13470C f15090D f00d20C eff100D eff100C eff100D eff100C eff100D eff100C
     eff100D eff100C eff100D eff100C eff100D f92b80C 1dff010B 93a800C 5c3af0D eff100C eff100D
     eff100C eff100D eff100C eff100D eff100C f92b80D 114db00C cb0700D 114db00C cb0700D 114db00C
     cb0700D 11e1580C c1cc80D 11e1580C c1cc80D 11e1580C cb0700D 114db00C cb0700D 114db00C
     cb0700D 11e1580C c1cc80D 11e1580C c1cc80D 11e1580C c1cc80D 11e1580C cb0700D 114db00C
     cb0700D 114db00C cb0700D 11e1580C c1cc80D 6bdad70C"),
  ("Asia/Kuching", "6770,6978,7080,7530,7e90 -5275f970B cdd40f8C 513dff8D 77f3d0C 16a9130D
     77f3d0C 1693fb0D 77f3d0C 1693fb0D 77f3d0C 1693fb0D 77f3d0C 16a9130D 77f3d0C 1693fb0D
     77f3d0C 5464b0E 6b715f0C"),
  ("Asia/Macau", "6a72,7080,7e90,8ca0 -7a96a472B 45de1a62C ab54f0D 108ef70C d84410D c9a770C
     3c3d4a0B 1177e00C c9b580B 108fd80C 128a180B cb0700C eff100B c9b580C 114db00B cb0700C
     114db00B cb0700C 1162c80B d2f000C 114db00B cb0700C 114db00B b89200C 1275000B b89200C
     1308a80B af5780C 130bbb8B b8a010C 12741f0B b8a010C 12741f0B b8a010C 12741f0B b8a010C
     1307c70B af6590C 1307c70B af6590C 1307c70B b8a010C 12741f0B b8a010C 12741f0B dd8a10C
     efd4e0B f00d20C efd4e0B f00d20C f91d70B efff10C efe2f0B efff10C efe2f0B efff10C efe2f0B
     efff10C efe2f0B efff10C f91d70B efff10C efe2f0B 5c5710C 1838af0B efff10C efe2f0B efff10C
     efe2f0B 4d4ad10C d43370B"),
  ("Asia/Magadan", "8d60,8ca0,9ab0,a8c0 -55e6c960B b8a7240C 5f838e70D f13470C efff10D f13470C
     efff10D f13470C f15090D f00d20C eff100D eff100C eff100D eff100C eff100D eff100C eff100D
     eff100C eff100D eff100C eff100D f92b80C 1dff010B 93a800C 5c3af0D eff100C eff100D eff100C
     eff100D eff100C eff100D eff100C f92b80D 114db00C cb0700D 114db00C cb0700D 114db00C cb0700D
     11e1580C c1cc80D 11e1580C c1cc80D 11e1580C cb0700D 114db00C cb0700D 114db00C cb0700D
     11e1580C c1cc80D 11e1580C c1cc80D 11e1580C c1cc80D 11e1580C cb0700D 114db00C cb0700D
     114db00C cb0700D 11e1580C c1cc80D 6bdad70B 2cfef20C"),
  ("Asia/Makassar", "6ff0,7080,7e90 -45e92a70B 117147f0C 6ced0f0B"),
  ("Asia/Manila", "-e018,7168,7080,7e90 -eb1e23e8B 66d99e28C 45e17a40D 6423f0C 93e8290D 7724af0C
     fba5310D 4722f0C 2ae8a010D ea9cf0C 17d02610D 5ae970C"),
  ("Asia/Nicosia", "1f48,1c20,2a30 -5a88e148B 64769128C efe2f0B 11cd210C c46170B e57310C e6a870B
     f93990C f13470B eead90C efe2f0B f93990C e6a870B efff10C efe2f0B efff10C efe2f0B efff10C
     efe2f0B efff10C f91d70B efff10C efe2f0B efff10C efe2f0B efff10C efe2f0B efff10C efe2f0B
     efff10C efe2f0B efff10C f91d70B efff10C efe2f0B efff10C efe2f0B efff10C efe2f0B efff10C
     efe2f0B efff10C efe2f0B f93990C efe2f0B efff10C efe2f0B efff10C 1150530B / 7cf 3 5 0 e10
     2a30 a 5 0 e10 1c20"),
  ("Asia/Novokuznetsk", "51c0,5460,6270,7080 -55e7df40B b8bc060C 5f838e70D f13470C efff10D
     f13470C efff10D f13470C f15090D f00d20C eff100D eff100C eff100D eff100C eff100D eff100C
     eff100D eff100C eff100D eff100C eff100D f92b80C 1dff010B 93a800C 5c3af0D eff100C eff100D
     eff100C eff100D eff100C eff100D eff100C f92b80D 114db00C cb0700D 114db00C cb0700D 114db00C
     cb0700D 11e1580C c1cc80D 11e1580C c1cc80D 11e1580C cb0700D 114db00C cb0700D 114db00C
     cb0700D 11e1580C c1cc80D 11e1580C c1cc80D 11e1580C c1cc80D 11e1580C cb0700D 114db00C
     cb0700D 114db00C 1e92a90B c1cc80C"),
  ("Asia/Novosibirsk", "4dbc,5460,6270,7080 -5e24e6dcB 13c8c7fcC 5f838e70D f13470C efff10D
     f13470C efff10D f13470C f15090D f00d20C eff100D eff100C eff100D eff100C eff100D eff100C
     eff100D eff100C eff100D eff100C eff100D f92b80C 1dff010B 93a800C 5c3af0D eff100C eff100D
     49a9d0C a65540B eff100C eff100B eff100C eff100B f92b80C 114db00B cb0700C 114db00B cb0700C
     114db00B cb0700C 11e1580B c1cc80C 11e1580B c1cc80C 11e1580B cb0700C 114db00B cb0700C
     114db00B cb0700C 11e1580B c1cc80C 11e1580B c1cc80C 11e1580B c1cc80C 11e1580B cb0700C
     114db00B cb0700C 114db00B cb0700C 11e1580B c1cc80C 6bdad70B 347d990C"),
  ("Asia/Omsk", "44ca,4650,5460,6270 -5e4cbf4aB 13f0ae7aC 5f838e70D f13470C efff10D f13470C
     efff10D f13470C f15090D f00d20C eff100D eff100C eff100D eff100C eff100D eff100C eff100D
     eff100C eff100D eff100C eff100D f92b80C 1dff010B 93a800C 5c3af0D eff100C eff100D eff100C
     eff100D eff100C eff100D eff100C f92b80D 114db00C cb0700D 114db00C cb0700D 114db00C cb0700D
     11e1580C c1cc80D 11e1580C c1cc80D 11e1580C cb0700D 114db00C cb0700D 114db00C cb0700D
     11e1580C c1cc80D 11e1580C c1cc80D 11e1580C c1cc80D 11e1580C cb0700D 114db00C cb0700D
     114db00C cb0700D 11e1580C c1cc80D 6bdad70C"),
  ("Asia/Oral", "3024,2a30,4650,5460,3840 -55e66c24B b8a7774C 5f838060D 2d267f0C efff10D f13470C
     f15090D f00d20C eff100D eff100C eff100D eff100C eff100D eff100C eff100D eff100C 1dff010E
     eff100C f92b80E eff100C eff100E 93a800C 14c3a00E eff100C eff100E eff100C eff100E eff100C
     eff100E f92b80C 114db00E cb0700C 114db00E cb0700C 114db00E cb0700C 11e1580E c1cc80C
     11e1580E c1cc80C 11e1580E cb0700C 114db00E cb0700C 114db00E cb0700C"),
  ("Asia/Pontianak", "6680,6978,7e90,7080,6270 -45e92100B 1162c508C 6dd4a68B 4e5d798D 3c25ff8B
     19b69888D 2d24b5f8E"),
  ("Asia/Pyongyang", "75e4,7788,7e90 -74280e64B 70e255cC c2e7eb78B 51e7300C"),
  ("Asia/Qatar", "3050,3840,2a30 -5e0d62d0B 6297f590C"),
  ("Asia/Qostanay", "3ba4,3840,4650,5460 -55e677a4B b8a74e4C 5f838e70D 2d267f0C efff10D f13470C
     f15090D f00d20C eff100D eff100C eff100D eff100C eff100D eff100C eff100D eff100C eff100D
     eff100C eff100D f92b80C 1dff010B 93a800C 5c3af0D eff100C eff100D eff100C eff100D eff100C
     eff100D eff100C f92b80D 114db00C cb0700D 114db00C cb0700D 114db00C cb0700D 11e1580C c1cc80D
     11e1580C c1cc80D 11e1580C cb0700D 114db00C cb0700D 114db00C cb0700D 257adad0C"),
  ("Asia/Qyzylorda", "3d60,3840,4650,5460 -55e67960B b8a76a0C 5f838e70D 2d267f0C efff10D f13470C
     f15090D f00d20C eff100D eff100C eff100D eff100C eff100D eff100C eff100D eff100C eff100D
     eff100C eff100D f92b80C 2738a00D 14c3a00C eff100D eff100C eff100D eff100C eff100D eff100C
     f92b80D 114db00C cb0700D 114db00C cb0700D 114db00C cb0700D 11e1580C c1cc80D 11e1580C
     c1cc80D 11e1580C cb0700D 114db00C cb0700D 114db00C cb0700D 1bb5ed50C"),
  ("Asia/Riyadh", "2bcc,2a30 -2ae4c94cB"),
  ("Asia/Sakhalin", "85c8,7e90,9ab0,a8c0,8ca0 -790f3248B 4b3fe538C 42f68460D f13470C efff10D
     f13470C efff10D f13470C f15090D f00d20C eff100D eff100C eff100D eff100C eff100D eff100C
     eff100D eff100C eff100D eff100C eff100D f92b80C 1dff010E 93a800C 5c3af0D eff100C eff100D
     eff100C eff100D eff100C eff100D eff100C f92b80D 114db00C 1dff010E cb0700C 114db00E cb0700C
     11e1580E c1cc80C 11e1580E c1cc80C 11e1580E cb0700C 114db00E cb0700C 114db00E cb0700C
     11e1580E c1cc80C 11e1580E c1cc80C 11e1580E c1cc80C 11e1580E cb0700C 114db00E cb0700C
     114db00E cb0700C 11e1580E c1cc80C 6bdad70E 2aaf710C"),
  ("Asia/Samarkand", "3ec9,3840,4650,5460 -55e67ac9B b8a7809C 5f838e70D 2d267f0C efff10D f13470C
     f15090D f00d20C eff100D eff100C eff100D eff100C eff100D eff100C eff100D eff100C eff100D
     eff100C eff100D f92b80C eff100D eff100C"),
  ("Asia/Seoul", "7708,7788,7e90,8ca0,8598 -74280f88B 70e2680C 447f7878D 890df0C 10a5d10D
     d43370C 10a5d10D d584f0C 139d310D a60ef0C 4c23810B 21c8e08E a76070B 14eeb10E af4970B
     11e2390E b883f0B 1275e10E b883f0B 1275e10E b883f0B 1275e10E b883f0B 1add710C 306def18D
     cb0700C 114db00D cb0700C"),
  ("Asia/Shanghai", "71d7,7080,7e90 -81c9bcd7B 22615f57C e16270B 26e05990C b09af0B c9c390C
     131cdf0B 76b510C 6befef0B 1503c90C b73270B 1027410C 1079df0B efff10C c9a770B 1178c10C
     238a70B 4578d530C af4970B 114e910C caf8f0B 11e2390C c1be70B 11e2390C caf8f0B 114e910C
     caf8f0B 114e910C caf8f0B"),
  ("Asia/Singapore", "615d,6270,6720,6978,7e90,7080 -797c7a5dB 33e3c8edC 104c96d0D dd79a8E
     6b70ee8D 44498010F"),
  ("Asia/Srednekolymsk", "901c,8ca0,9ab0,a8c0 -55e6cc1cB b8a74fcC 5f838e70D f13470C efff10D
     f13470C efff10D f13470C f15090D f00d20C eff100D eff100C eff100D eff100C eff100D eff100C
     eff100D eff100C eff100D eff100C eff100D f92b80C 1dff010B 93a800C 5c3af0D eff100C eff100D
     eff100C eff100D eff100C eff100D eff100C f92b80D 114db00C cb0700D 114db00C cb0700D 114db00C
     cb0700D 11e1580C c1cc80D 11e1580C c1cc80D 11e1580C cb0700D 114db00C cb0700D 114db00C
     cb0700D 11e1580C c1cc80D 11e1580C c1cc80D 11e1580C c1cc80D 11e1580C cb0700D 114db00C
     cb0700D 114db00C cb0700D 11e1580C c1cc80D 6bdad70C"),
  ("Asia/Taipei", "71e8,7080,7e90 -8b310fe8B 4e865968C eff1000B 1372200C b73270B 1027410C
     1079df0B efff10C c9a770B 1178c10C c9a770B 1178c10C c9a770B 1178c10C c9a770B c87210C
     142f170B c72090C 11a12f0B c72090C 11a12f0B c72090C f13470B f15090C f13470B efff10C f13470B
     efff10C f13470B efff10C f13470B 141bc10C a0c8f0B 1406a90C a0c8f0B 17825d90C f13470B efff10C
     f13470B 70ce390C 793bf0B"),
  ("Asia/Tashkent", "40f7,4650,5460,6270 -55e67cf7B b8a6c27C 5f838e70D f13470C efff10D f13470C
     efff10D f13470C f15090D f00d20C eff100D eff100C eff100D eff100C eff100D eff100C eff100D
     eff100C eff100D eff100C eff100D f92b80C 1dff010B"),
  ("Asia/Tbilisi", "29ff,2a30,3840,4650 -55e665ffB 3dc0724fC 2d4d8d70D f13470C efff10D f13470C
     efff10D f13470C f15090D f00d20C eff100D eff100C eff100D eff100C eff100D eff100C eff100D
     eff100C eff100D eff100C eff100D f92b80C 1dff010B efd4e0C efe2f0B efff10C efe2f0B efff10C
     1dfd3f0D efe2f0C f93990D 2f4aef0C cb1510D 114ccf0C cb1510D 11e0770C c1da90D 11e0770C
     c1da90D 11e0770C cb1510D 114ccf0C cb1510D 114ccf0C cb1510D 77ea70C a65540B c1cc80C"),
  ("Asia/Tehran", "3038,3138,3f48,3840,4650 -40ff33b8B 4e9377f0C 118cf80D cc5f88E af5780D
     813300B 103be88C 978e70B f2a210C f528f0B 13f36110C bb26f0B efff10C f285f0B eead90C f285f0B
     eead90C f285f0B eead90C f285f0B eead90C f285f0B efff10C f285f0B eead90C f285f0B eead90C
     f285f0B eead90C f285f0B efff10C f285f0B eead90C f285f0B eead90C f285f0B eead90C f285f0B
     efff10C f285f0B 4b11490C f285f0B efff10C f285f0B eead90C f285f0B eead90C f285f0B eead90C
     f285f0B efff10C f285f0B eead90C f285f0B eead90C f285f0B eead90C f285f0B efff10C f285f0B
     eead90C f285f0B eead90C f285f0B eead90C f285f0B efff10C f285f0B eead90C f285f0B"),
  ("Asia/Thimphu", "540c,4d58,5460 -2a19ea8cB 4b7b3834C"),
  ("Asia/Tokyo", "8303,7e90,8ca0 -9a3d5b90B 717b5e00C af5780B 10ba080C d44180B 139c500C a61d00B
     139c500C a61d00B"),
  ("Asia/Tomsk", "4fa7,5460,6270,7080 -5e1ab127B 13be9247C 5f838e70D f13470C efff10D f13470C
     efff10D f13470C f15090D f00d20C eff100D eff100C eff100D eff100C eff100D eff100C eff100D
     eff100C eff100D eff100C eff100D f92b80C 1dff010B 93a800C 5c3af0D eff100C eff100D eff100C
     eff100D eff100C eff100D eff100C f92b80D 114db00C cb0700D 114db00C cb0700D 114db00C cb0700D
     11e1580C c1cc80D 11e1580C c1cc80D 11e1580C cb0700D 28de80C ec0a90B cb0700C 114db00B cb0700C
     11e1580B c1cc80C 11e1580B c1cc80C 11e1580B c1cc80C 11e1580B cb0700C 114db00B cb0700C
     114db00B cb0700C 11e1580B c1cc80C 6bdad70B 2fe0590C"),
  ("Asia/Ulaanbaatar", "6434,6270,7080,7e90 -792c11b4B 8837ee44C 9ddebf0D f13470C f15090D
     efe2f0C efff10D efe2f0C efff10D efe2f0C efff10D efe2f0C efff10D efe2f0C efff10D efe2f0C
     efff10D f91d70C efff10D efe2f0C efff10D efe2f0C efff10D efe2f0C efff10D efe2f0C efff10D
     efe2f0C f93990D efe2f0C efff10D efe2f0C efff10D efe2f0C 4dcb230D caf8f0C efff10D efe2f0C
     efff10D efe2f0C efff10D efe2f0C efff10D efe2f0C efff10D f91d70C ff84990D efc6d0C f01b30D
     efc6d0C"),
  ("Asia/Urumqi", "521c,5460 -4f01459cB"),
  ("Asia/Ust-Nera", "8646,7080,7e90,a8c0,9ab0,8ca0 -5e242246B 13c7e746C 5f838e70D f11850E
     efff10D f13470E efff10D f13470E f15090D f00d20E eff100D eff100E eff100D eff100E eff100D
     eff100E eff100D eff100E eff100D eff100E eff100D f92b80E 1dff010F 93a800E 5c3af0D eff100E
     eff100D eff100E eff100D eff100E eff100D eff100E f92b80D 114db00E cb0700D 114db00E cb0700D
     114db00E cb0700D 11e1580E c1cc80D 11e1580E c1cc80D 11e1580E cb0700D 114db00E cb0700D
     114db00E cb0700D 11e1580E c1cc80D 11e1580E c1cc80D 11e1580E c1cc80D 11e1580E cb0700D
     114db00E cb0700D 114db00E cb0700D 11e1580E c1cc80D dff4d0E 5ddc6b0F"),
  ("Asia/Vladivostok", "7ba3,7e90,8ca0,9ab0 -58a6b8a3B e4a6f93C 5f838e70D f13470C efff10D
     f13470C efff10D f13470C f15090D f00d20C eff100D eff100C eff100D eff100C eff100D eff100C
     eff100D eff100C eff100D eff100C eff100D f92b80C 1dff010B 93a800C 5c3af0D eff100C eff100D
     eff100C eff100D eff100C eff100D eff100C f92b80D 114db00C cb0700D 114db00C cb0700D 114db00C
     cb0700D 11e1580C c1cc80D 11e1580C c1cc80D 11e1580C cb0700D 114db00C cb0700D 114db00C
     cb0700D 11e1580C c1cc80D 11e1580C c1cc80D 11e1580C c1cc80D 11e1580C cb0700D 114db00C
     cb0700D 114db00C cb0700D 11e1580C c1cc80D 6bdad70C"),
  ("Asia/Yakutsk", "79a2,7080,7e90,8ca0 -5e2415a2B 13c7daa2C 5f838e70D f13470C efff10D f13470C
     efff10D f13470C f15090D f00d20C eff100D eff100C eff100D eff100C eff100D eff100C eff100D
     eff100C eff100D eff100C eff100D f92b80C 1dff010B 93a800C 5c3af0D eff100C eff100D eff100C
     eff100D eff100C eff100D eff100C f92b80D 114db00C cb0700D 114db00C cb0700D 114db00C cb0700D
     11e1580C c1cc80D 11e1580C c1cc80D 11e1580C cb0700D 114db00C cb0700D 114db00C cb0700D
     11e1580C c1cc80D 11e1580C c1cc80D 11e1580C c1cc80D 11e1580C cb0700D 114db00C cb0700D
     114db00C cb0700D 11e1580C c1cc80D 6bdad70C"),
  ("Asia/Yangon", "5a2f,5b68,7e90 -5e0d8cafB 2a0088c7C 5a76bd8B"),
  ("Asia/Yekaterinburg", "38d9,34c1,3840,4650,5460 -64a0f6d9B 5b3a8d8C 14914b41D 5f838e70E
     f13470D efff10E f13470D efff10E f13470D f15090E f00d20D eff100E eff100D eff100E eff100D
     eff100E eff100D eff100E eff100D eff100E eff100D eff100E f92b80D 1dff010C 93a800D 5c3af0E
     eff100D eff100E eff100D eff100E eff100D eff100E eff100D f92b80E 114db00D cb0700E 114db00D
     cb0700E 114db00D cb0700E 11e1580D c1cc80E 11e1580D c1cc80E 11e1580D cb0700E 114db00D
     cb0700E 114db00D cb0700E 11e1580D c1cc80E 11e1580D c1cc80E 11e1580D c1cc80E 11e1580D
     cb0700E 114db00D cb0700E 114db00D cb0700E 11e1580D c1cc80E 6bdad70D"),
  ("Asia/Yerevan", "29b8,2a30,3840,4650 -55e665b8B 3dc07208C 2d4d8d70D f13470C efff10D f13470C
     efff10D f13470C f15090D f00d20C eff100D eff100C eff100D eff100C eff100D eff100C eff100D
     eff100C eff100D eff100C eff100D f92b80C 1dff010B eff100C eff100B eff100C eff100B eff100C
     eff100B eff100C 3c8f070D 114db00C cb0700D 114db00C cb0700D 11e1580C c1cc80D 11e1580C
     c1cc80D 11e1580C cb0700D 114db00C cb0700D 114db00C cb0700D 11e1580C c1cc80D 11e1580C
     c1cc80D 11e1580C c1cc80D 11e1580C cb0700D 114db00C cb0700D 114db00C cb0700D 11e1580C
     c1cc80D 11e1580C"),
  ("Atlantic/Azores", "-1810,-1ad8,-1c20,-e10,0,e10 -a1c2e470B 34a98f10C 864def0D b35a10C
     9e3400D 12c87f0C b4ab90D 12c87f0C b4ab90D 12c87f0C b5fd10D 12c87f0C b4ab90D 12c87f0C
     4b64c80D e17080C 2e24800D dd7c00C f92b80D e6b680C 1026600D e6b680C 1026600D dd7c00C
     2e24800D dd7c00C eff100D eff100C 2d90d80D eff100C e6b680D f92b80C 1026600D dd7c00C eff100D
     eff100C e6b680D f92b80C 1026600D 11e1580C 813300D 129f300C ed4e00D f14280C d2f000D 3750f0E
     93a800D 5c5710C b89200D 2e1670E af5780D 531c90C af5780D 3750f0E a61d00D 531c90C af5780D
     3750f0E a61d00D 531c90C d44180D eff100C f01b30D eff100C eff100D eff100C eff100D eff100C
     eff100D eff100C eff100D f92b80C eff100D eff100C eff100D eff100C eff100D eff100C eff100D
     eff100C eff100D f92b80C eff100D eff100C eff100D eff100C eff100D eff100C eff100D eff100C
     eff100D eff100C eff100D f92b80C eff100D eff100C eff100D eff100C eff100D eff100C eff100D
     1e106ad0E eff100D eff100E eff100D eff100E f92b80D eff100E eff100D eff100E eff100D eff100E
     eff100D eff100E eff100D eff100E eff100D eff100E f92b80D eff100E eff100D eff100E eff100D
     780690E 77ea70F 6ac980E 852780D eff100E eff100D eff100E eff100D / 7cc 3 5 0 e10 0 a 5 0 e10
     -e10"),
  ("Atlantic/Bermuda", "-3cc6,-2eb6,-3840,-2a30 -633351baB ea9cf0A 1012290B cc4a70A 153e65b0C
     169f88faD 17115f0C cb1510D 12741f0C af6590D 139b6f0C a62b10D 139b6f0C 2e25610D 9cd470C
     14c4810D 8a5f70C 1558290D 8a5f70C 15ebd10D 8124f0C 15ebd10D 8124f0C 15ebd10D 8a5f70C
     6fe6310D caf8f0C 20e9b090D efe2f0C efff10D efe2f0C efff10D f91d70C e6c490D f91d70C efff10D
     efe2f0C efff10D efe2f0C efff10D efe2f0C efff10D efe2f0C efff10D f91d70C e6c490D f91d70C
     efff10D efe2f0C efff10D efe2f0C efff10D efe2f0C d44f90D 10b9270C d44f90D 114ccf0C cb1510D
     114ccf0C cb1510D 114ccf0C d44f90D 10b9270C d44f90D 10b9270C d44f90D 114ccf0C cb1510D
     114ccf0C cb1510D 114ccf0C d44f90D 10b9270C d44f90D 10b9270C d44f90D 10b9270C d44f90D
     114ccf0C cb1510D 114ccf0C cb1510D 114ccf0C d44f90D 10b9270C d44f90D 10b9270C d44f90D
     114ccf0C cb1510D 114ccf0C cb1510D 114ccf0C / 7d7 3 2 0 5460 -2a30 b 1 0 4650 -3840"),
  ("Atlantic/Canary", "-e70,-e10,0,e10 -59fba310B 2e3d9a30C 3f0b3ee0D e6c490C eff100D eff100C
     eff100D eff100C eff100D eff100C eff100D f92b80C eff100D eff100C eff100D eff100C eff100D
     eff100C eff100D eff100C eff100D eff100C eff100D f92b80C eff100D eff100C eff100D eff100C
     eff100D eff100C eff100D eff100C eff100D eff100C / 7cc 3 5 0 e10 e10 a 5 0 e10 0"),
  ("Atlantic/Cape_Verde", "-160c,-1c20,-e10 -6d195560B 39aef180C 5dedff0B 38a37b30C"),
  ("Atlantic/Faroe", "-658,0,e10 -74925ba8B 89b64738C eff100B eff100C eff100B eff100C eff100B
     eff100C f92b80B eff100C eff100B eff100C eff100B eff100C eff100B eff100C eff100B eff100C
     eff100B eff100C f92b80B eff100C eff100B eff100C eff100B eff100C eff100B eff100C eff100B
     eff100C eff100B / 7cc 3 5 0 e10 e10 a 5 0 e10 0"),
  ("Atlantic/Madeira", "-fd8,-e10,0,e10 -6d196370B 864def0C b35a10B 9e3400C 12c87f0B b4ab90C
     12c87f0B b4ab90C 12c87f0B b5fd10C 12c87f0B b4ab90C 12c87f0B 4b64c80C e17080B 2e24800C
     dd7c00B f92b80C e6b680B 1026600C e6b680B 1026600C dd7c00B 2e24800C dd7c00B eff100C eff100B
     2d90d80C eff100B e6b680C f92b80B 1026600C dd7c00B eff100C eff100B e6b680C f92b80B 1026600C
     11e1580B 813300C 129f300B ed4e00C f14280B d2f000C 3750f0D 93a800C 5c5710B b89200C 2e1670D
     af5780C 531c90B af5780C 3750f0D a61d00C 531c90B af5780C 3750f0D a61d00C 531c90B d44180C
     eff100B f01b30C eff100B eff100C eff100B eff100C eff100B eff100C eff100B eff100C f92b80B
     eff100C eff100B eff100C eff100B eff100C eff100B eff100C eff100B eff100C f92b80B eff100C
     eff100B eff100C eff100B eff100C eff100B eff100C eff100B eff100C eff100B eff100C f92b80B
     eff100C eff100B eff100C eff100B eff100C eff100B eff100C 1e19a550D e6b680C eff100D eff100C
     eff100D f92b80C eff100D eff100C eff100D efff10C eff100D eff100C eff100D eff100C eff100D
     eff100C eff100D f92b80C eff100D eff100C eff100D eff100C eff100D eff100C eff100D eff100C
     eff100D eff100C / 7cc 3 5 0 e10 e10 a 5 0 e10 0"),
  ("Atlantic/South_Georgia", "-2240,-1c20 -96790240B"),
  ("Atlantic/Stanley", "-363c,-3840,-2a30,-1c20 -6cbba0c4B 300afb84C e6a870B f93990C e6a870B
     1027410C e6a870B f93990C e6a870B f93990C e6a870B f93990C 7e81f0B 4bdb7d10C c1be70D 11e0770C
     b8a010D 12741f0C 1d6b590B c1da90C 11e0770B c1da90C 11e0770B c1da90C 11e0770B c1da90C
     12741f0B b8a010C 12741f0B c1da90C 11e0770B c1da90C 11e0770B c1da90C 11e0770B c1da90C
     11e0770B c1da90C 12741f0B c1da90C 11e0770B c1da90C 11e0770B c1da90C 11e0770B c1da90C
     11e0770B c1da90C 11e2390B b8a010C 1307c70B af6590C 1307c70B b8a010C 12741f0B b8a010C
     12741f0B b8a010C 12741f0B b8a010C 12741f0B b8a010C 1307c70B b8a010C 12741f0B b8a010C
     12741f0B b8a010C"),
  ("Australia/Adelaide", "81ec,7e90,8598,93a8 -8ce974ecB 7fb785cC 213cc618D 6d6c80C 2e988400D
     72b280C eff100D eff100C f92b80D e6b680C 33e91000D 9ce280C 142ff80D a61d00C 139c500D a61d00C
     139c500D a61d00C 139c500D af5780C 139c500D a61d00C 139c500D a61d00C 139c500D a61d00C
     139c500D a61d00C 139c500D a61d00C 139c500D af5780C 139c500D a61d00C 139c500D a61d00C
     139c500D a61d00C 139c500D b89200C 11e1580D c1cc80C 1275000D c1cc80C 1275000D b89200C
     1275000D b89200C 1275000D a61d00C 139c500D c1cc80C 11e1580D af5780C 139c500D b89200C
     1275000D c1cc80C 11e1580D cb0700C 114db00D cb0700C 114db00D cb0700C 114db00D cb0700C
     11e1580D c1cc80C 11e1580D c1cc80C 11e1580D cb0700C 114db00D cb0700C 114db00D cb0700C
     11e1580D c1cc80C 11e1580D cb0700C 114db00D c1cc80C 11e1580D / 7d8 4 1 0 -6978 8598 a 1 0
     -6978 93a8"),
  ("Australia/Brisbane", "8f78,8ca0,9ab0 -8d1260f8B 29612378C 6d6c80B 2e988400C 72b280B eff100C
     eff100B f92b80C e6b680B 33e91000C 9ce280B 213cb100C a61d00B 139c500C a61d00B 139c500C
     a61d00B"),
  ("Australia/Broken_Hill", "849c,8ca0,7e90,8598,93a8 -8ce9779cB 2ee1d7cC 50d5d90D 213cc618E
     6d6c80D 2e988400E 72b280D eff100E eff100D f92b80E e6b680D 33e91000E 9ce280D 142ff80E
     a61d00D 139c500E a61d00D 139c500E a61d00D 139c500E af5780D 139c500E a61d00D 139c500E
     a61d00D 139c500E a61d00D 139c500E a61d00D 139c500E a61d00D 139c500E d44180D 114db00E
     a61d00D 139c500E a61d00D 139c500E a61d00D 139c500E b89200D 11e1580E c1cc80D 1275000E
     c1cc80D 1275000E b89200D 1275000E a61d00D 139c500E a61d00D 139c500E a61d00D 139c500E
     af5780D 139c500E a61d00D 139c500E a61d00D 139c500E cb0700D 114db00E cb0700D 114db00E
     cb0700D 114db00E cb0700D 11e1580E c1cc80D 11e1580E c1cc80D 11e1580E cb0700D 114db00E
     cb0700D 114db00E cb0700D 11e1580E c1cc80D 11e1580E cb0700D 114db00E c1cc80D 11e1580E / 7d8
     4 1 0 -6978 8598 a 1 0 -6978 93a8"),
  ("Australia/Darwin", "7aa8,7e90,8598,93a8 -8ce96da8B 7fb7118C 213cc618D 6d6c80C 2e988400D
     72b280C eff100D eff100C f92b80D e6b680C"),
  ("Australia/Eucla", "78d0,7b0c,891c -8b59f550B 27a8c964C 6d6c80B 2e988400C 72b280B eff100C
     eff100B 3b689800C a61d00B 104b4a00C a61d00B e7ddd00C 8a6d80B 1bc1f500C 93a800B 11e1580C
     cb0700B 114db00C cb0700B"),
  ("Australia/Hobart", "8a1c,8ca0,9ab0 -8bd1ff1cB 27a7779cC e6b680B 11e1580C a61d00B 139c500C
     a61d00B 2af46f80C 72b280B eff100C eff100B f92b80C e6b680B 2c3b6380C eff100B 114db00C
     af5780B 1308a80C af5780B 1308a80C b89200B 1308a80C 9ce280B 142ff80C a61d00B 139c500C
     a61d00B 139c500C a61d00B 139c500C af5780B 139c500C a61d00B 139c500C a61d00B 139c500C
     a61d00B 139c500C a61d00B 139c500C a61d00B 139c500C cb0700B 11e1580C c1cc80B 11e1580C
     a61d00B 139c500C a61d00B 139c500C a61d00B 1308a80C c1cc80B 1275000C c1cc80B 1275000C
     b89200B 1275000C b89200B 1275000C cb0700B f92b80C e6b680B f92b80C e6b680B f92b80C e6b680B
     f92b80C e6b680B f92b80C eff100B f92b80C e6b680B f92b80C e6b680B f92b80C e6b680B f92b80C
     e6b680B cb0700C 114db00B 1026600C e6b680B f92b80C e6b680B f92b80C e6b680B f92b80C e6b680B
     f92b80C eff100B eff100C e6b680B 1026600C / 7d8 4 1 0 -7080 8ca0 a 1 0 -7080 9ab0"),
  ("Australia/Lindeman", "8bac,8ca0,9ab0 -8d125d2cB 29611facC 6d6c80B 2e988400C 72b280B eff100C
     eff100B f92b80C e6b680B 33e91000C 9ce280B 213cb100C a61d00B 139c500C a61d00B 139c500C
     a61d00B 139c500C af5780B 139c500C a61d00B"),
  ("Australia/Lord_Howe", "9524,8ca0,93a8,a1b8,9ab0 -8ce98824B a1e7ef04C 139da18D af4970C
     139d310D a60ef0C 139d310D a60ef0C 139d310D a60ef0C 139d310E b88af8C 11e1c88E c1c578C
     1275708E c1c578C 1275708E b88af8C 1275708E a615f8C 139cc08E a615f8C 139cc08E a615f8C
     139cc08E af5078C 139cc08E a615f8C 139cc08E a615f8C 139cc08E cafff8C 114e208E cafff8C
     114e208E cafff8C 114e208E cafff8C 11e1c88E c1c578C cb0e08E 114d3f8C 11e1c88E cafff8C
     114e208E cafff8C 114e208E cafff8C 11e1c88E c1c578C 11e1c88E cafff8C 114e208E c1c578C
     11e1c88E / 7d8 4 1 0 -7e90 93a8 a 1 0 -7788 9ab0"),
  ("Australia/Melbourne", "87e8,8ca0,9ab0 -8ce97ae8B 29383d68C 6d6c80B 2e988400C 72b280B eff100C
     eff100B f92b80C e6b680B 33e91000C 9ce280B 142ff80C a61d00B 139c500C a61d00B 139c500C
     a61d00B 139c500C af5780B 139c500C a61d00B 139c500C a61d00B 139c500C a61d00B 139c500C
     a61d00B 139c500C a61d00B 139c500C af5780B 139c500C a61d00B 139c500C a61d00B 139c500C
     a61d00B 139c500C b89200B 11e1580C c1cc80B 11e1580C cb0700B 1275000C b89200B 1275000C
     b89200B 1275000C a61d00B 139c500C a61d00B 139c500C af5780B 139c500C a61d00B 139c500C
     c1cc80B 11e1580C cb0700B 114db00C cb0700B 114db00C cb0700B 114db00C cb0700B 11e1580C
     c1cc80B cb0700C 114db00B 11e1580C cb0700B 114db00C cb0700B 114db00C cb0700B 11e1580C
     c1cc80B 11e1580C cb0700B 114db00C c1cc80B 11e1580C / 7d8 4 1 0 -7080 8ca0 a 1 0 -7080 9ab0"),
  ("Australia/Perth", "6c9c,7080,7e90 -8b59e91cB 27a8c7bcC 6d6c80B 2e988400C 72b280B eff100C
     eff100B 3b689800C a61d00B 104b4a00C a61d00B e7ddd00C 8a6d80B 1bc1f500C 93a800B 11e1580C
     cb0700B 114db00C cb0700B"),
  ("Australia/Sydney", "8dc4,8ca0,9ab0 -8ce980c4B 29384344C 6d6c80B 2e988400C 72b280B eff100C
     eff100B f92b80C e6b680B 33e91000C 9ce280B 142ff80C a61d00B 139c500C a61d00B 139c500C
     a61d00B 139c500C af5780B 139c500C a61d00B 139c500C a61d00B 139c500C a61d00B 139c500C
     a61d00B 139c500C a61d00B 139c500C d44180B 114db00C a61d00B 139c500C a61d00B 139c500C
     a61d00B 139c500C b89200B 11e1580C c1cc80B 1275000C c1cc80B 1275000C b89200B 1275000C
     a61d00B 139c500C a61d00B 139c500C a61d00B 139c500C af5780B 139c500C a61d00B 139c500C
     a61d00B 139c500C cb0700B 114db00C cb0700B 114db00C cb0700B 114db00C cb0700B 11e1580C
     c1cc80B cb0700C 114db00B 11e1580C cb0700B 114db00C cb0700B 114db00C cb0700B 11e1580C
     c1cc80B 11e1580C cb0700B 114db00C c1cc80B 11e1580C / 7d8 4 1 0 -7080 8ca0 a 1 0 -7080 9ab0"),
  ("CET", "e10,1c20 -64f3e8a0B c9c390A 103d3a0B cb0700A 114db00B cb0700A 2884da00B 4ddd980A
     c1cc80B f92b80A eff100B eff100A eff100B dc2a80A 3b562300B e6b680A f92b80B eff100A eff100B
     eff100A f92b80B e6b680A eff100B eff100A eff100B eff100A eff100B eff100A eff100B f92b80A
     eff100B eff100A eff100B eff100A eff100B eff100A eff100B eff100A eff100B eff100A eff100B
     f92b80A eff100B eff100A eff100B eff100A eff100B eff100A eff100B eff100A eff100B eff100A /
     7cc 3 5 0 e10 1c20 a 5 0 e10 e10"),
  ("CST6CDT", "-5460,-4650 -6159d380B 114ccf0A cb1510B 114ccf0A 29ee2310B 6d80b70A 28975d10B
     efe2f0A efff10B efe2f0A efff10B efe2f0A efff10B efe2f0A efff10B f91d70A efff10B efe2f0A
     efff10B efe2f0A 5c5710B 1838af0A 9cf090B 142f170A efff10B f91d70A e6c490B f91d70A efff10B
     efe2f0A efff10B efe2f0A efff10B efe2f0A efff10B efe2f0A efff10B f91d70A e6c490B f91d70A
     efff10B efe2f0A efff10B efe2f0A efff10B efe2f0A d44f90B 10b9270A d44f90B 114ccf0A cb1510B
     114ccf0A cb1510B 114ccf0A d44f90B 10b9270A d44f90B 10b9270A d44f90B 114ccf0A cb1510B
     114ccf0A cb1510B 114ccf0A d44f90B 10b9270A d44f90B 10b9270A d44f90B 10b9270A d44f90B
     114ccf0A cb1510B 114ccf0A cb1510B 114ccf0A d44f90B 10b9270A d44f90B 10b9270A d44f90B
     114ccf0A cb1510B 114ccf0A cb1510B 114ccf0A / 7d7 3 2 0 7080 -4650 b 1 0 6270 -5460"),
  ("EET", "1c20,2a30 da46390B e6b680A f92b80B eff100A eff100B eff100A f92b80B e6b680A eff100B
     eff100A eff100B eff100A eff100B eff100A eff100B f92b80A eff100B eff100A eff100B eff100A
     eff100B eff100A eff100B eff100A eff100B eff100A eff100B f92b80A eff100B eff100A eff100B
     eff100A eff100B eff100A eff100B eff100A eff100B eff100A / 7cc 3 5 0 e10 2a30 a 5 0 e10 1c20"),
  ("EST", "-4650"),
  ("EST5EDT", "-4650,-3840 -6159e190B 114ccf0A cb1510B 114ccf0A 29ee2310B 6d80b70A 28975d10B
     efe2f0A efff10B efe2f0A efff10B efe2f0A efff10B efe2f0A efff10B f91d70A efff10B efe2f0A
     efff10B efe2f0A 5c5710B 1838af0A 9cf090B 142f170A efff10B f91d70A e6c490B f91d70A efff10B
     efe2f0A efff10B efe2f0A efff10B efe2f0A efff10B efe2f0A efff10B f91d70A e6c490B f91d70A
     efff10B efe2f0A efff10B efe2f0A efff10B efe2f0A d44f90B 10b9270A d44f90B 114ccf0A cb1510B
     114ccf0A cb1510B 114ccf0A d44f90B 10b9270A d44f90B 10b9270A d44f90B 114ccf0A cb1510B
     114ccf0A cb1510B 114ccf0A d44f90B 10b9270A d44f90B 10b9270A d44f90B 10b9270A d44f90B
     114ccf0A cb1510B 114ccf0A cb1510B 114ccf0A d44f90B 10b9270A d44f90B 10b9270A d44f90B
     114ccf0A cb1510B 114ccf0A cb1510B 114ccf0A / 7d7 3 2 0 6270 -3840 b 1 0 5460 -4650"),
  ("Etc/GMT", "0"),
  ("Etc/GMT+1", "-e10"),
  ("Etc/GMT+10", "-8ca0"),
  ("Etc/GMT+11", "-9ab0"),
  ("Etc/GMT+12", "-a8c0"),
  ("Etc/GMT+2", "-1c20"),
  ("Etc/GMT+3", "-2a30"),
  ("Etc/GMT+4", "-3840"),
  ("Etc/GMT+5", "-4650"),
  ("Etc/GMT+6", "-5460"),
  ("Etc/GMT+7", "-6270"),
  ("Etc/GMT+8", "-7080"),
  ("Etc/GMT+9", "-7e90"),
  ("Etc/GMT-1", "e10"),
  ("Etc/GMT-10", "8ca0"),
  ("Etc/GMT-11", "9ab0"),
  ("Etc/GMT-12", "a8c0"),
  ("Etc/GMT-13", "b6d0"),
  ("Etc/GMT-14", "c4e0"),
  ("Etc/GMT-2", "1c20"),
  ("Etc/GMT-3", "2a30"),
  ("Etc/GMT-4", "3840"),
  ("Etc/GMT-5", "4650"),
  ("Etc/GMT-6", "5460"),
  ("Etc/GMT-7", "6270"),
  ("Etc/GMT-8", "7080"),
  ("Etc/GMT-9", "7e90"),
  ("Etc/UTC", "0"),
  ("Europe/Andorra", "16c,0,e10,1c20 -81c94c6cB 560b276cC 486ad310D eff100C eff100D eff100C
     eff100D eff100C eff100D eff100C eff100D eff100C eff100D f92b80C eff100D eff100C eff100D
     eff100C eff100D eff100C eff100D eff100C eff100D eff100C / 7cc 3 5 0 e10 1c20 a 5 0 e10 e10"),
  ("Europe/Astrakhan", "2d0c,2a30,3840,4650 -55e7ba8cB b8bc5dcC 5f838e70D f13470C efff10D
     f13470C efff10D f13470C f15090D f00d20C eff100D eff100C eff100D eff100C eff100D eff100C
     eff100D eff100C 1dff010B eff100C f92b80B eff100C 2cfd300B eff100C eff100B eff100C eff100B
     eff100C eff100B f92b80C 114db00B cb0700C 114db00B cb0700C 114db00B cb0700C 11e1580B c1cc80C
     11e1580B c1cc80C 11e1580B cb0700C 114db00B cb0700C 114db00B cb0700C 11e1580B c1cc80C
     11e1580B c1cc80C 11e1580B c1cc80C 11e1580B cb0700C 114db00B cb0700C 114db00B cb0700C
     11e1580B c1cc80C 6bdad70B 2aaf710C"),
  ("Europe/Athens", "163c,1c20,2a30,e10 -647fde80B 1dfcc860C 49c5f0B 102bb410C 1e4470B 2d6a2c0D
     c301e0B f7cbf0D f15090B f8034f0C a36bf0B 2a355410C 12c9600B b4b9a0C eff100B e6b680C e80800B
     f7da00C e6c490B f97fe0C ee2f00B f3d770C ed3ff0B f02940C eff100B eff100C eff100B eff100C
     eff100B eff100C f92b80B eff100C eff100B eff100C eff100B eff100C eff100B eff100C eff100B
     eff100C eff100B eff100C f92b80B eff100C eff100B eff100C eff100B eff100C eff100B eff100C
     eff100B eff100C eff100B / 7cc 3 5 0 e10 2a30 a 5 0 e10 1c20"),
  ("Europe/Belgrade", "1338,e10,1c20 -a1c30fb8B 6bc54598C 2e51530B c1cc80C f92b80B eff100C
     eff100B 11f6700C acb480B 46956f00C eff100B eff100C f92b80B eff100C eff100B eff100C eff100B
     eff100C eff100B eff100C eff100B eff100C eff100B eff100C f92b80B eff100C eff100B eff100C
     eff100B eff100C eff100B eff100C eff100B eff100C eff100B / 7cc 3 5 0 e10 1c20 a 5 0 e10 e10"),
  ("Europe/Berlin", "c88,e10,1c20,2a30 -905d9e08B 2b69b568C c9c390B 103d3a0C cb0700B 114db00C
     cb0700B 2884da00C 4ddd980B c1cc80C f92b80B eff100C eff100B eff100C 447ff0D a22880C 489090B
     c1cc80C e80800B eead90C 2e1670D 408b70C 814110B 1026600C dd7c00B f92b80C e6b680B 3963cc00C
     e6b680B eff100C eff100B eff100C eff100B eff100C eff100B eff100C f92b80B eff100C eff100B
     eff100C eff100B eff100C eff100B eff100C eff100B eff100C eff100B eff100C f92b80B eff100C
     eff100B eff100C eff100B eff100C eff100B eff100C eff100B eff100C eff100B / 7cc 3 5 0 e10
     1c20 a 5 0 e10 e10"),
  ("Europe/Brussels", "41a,0,e10,1c20 -92173800B 2a5b8180C 2c7dbf0D c9b580C 103d3a0D cb0700C
     114db00D cb0700C 4a60a0B 91adc0C 11e1580B af5780C 14c3a00B bb3500C 128a180B c71280C
     1026600B 1026600C dd7c00B e6b680C f92b80B eff100C eff100B 1026600C dd7c00B f92b80C e6b680B
     1026600C e6e0b0B 1026600C dd7c00B f92b80C e6b680B 1026600C dd7c00B eff100C eff100B e6b680C
     1026600B eff100C eff100B e6b680C f92b80B 1026600C dd7c00B eff100C eff100B e6b680C f92b80B
     1026600C 11e1580B 813300C 700f80D 49d31f0C c1cc80D f92b80C eff100D dc2a80C 103b780D dc2a80C
     142ff80D b9e380C 39594000D e6b680C f92b80D eff100C eff100D eff100C f92b80D e6b680C eff100D
     eff100C eff100D eff100C eff100D eff100C eff100D f92b80C eff100D eff100C eff100D eff100C
     eff100D eff100C eff100D eff100C eff100D eff100C eff100D f92b80C eff100D eff100C eff100D
     eff100C eff100D eff100C eff100D eff100C eff100D eff100C / 7cc 3 5 0 e10 1c20 a 5 0 e10 e10"),
  ("Europe/Bucharest", "1878,1c20,2a30 -484f2df8B 18e2158C b0a900B eff100C eff100B f92b80C
     eff100B eff100C eff100B eff100C eff100B eff100C eff100B eff100C eff100B eff100C eff100B
     4a95cc80C a60ef0B f92b80C e6c490B f00d20C eff100B eff100C eff100B eff100C eff100B eff100C
     f92b80B eff100C eff100B eff100C eff100B eff100C eff100B eff100C eff100B eff100C eff100B
     eff100C f92b80B efd4e0C eff100B eff100C eff100B eff100C eff100B eff100C efe2f0B efff10C
     efe2f0B f93990C 114ccf0B / 7cd 3 5 0 e10 2a30 a 5 0 e10 1c20"),
  ("Europe/Budapest", "11e4,e10,1c20 -94e86e64B 2ff485c4C c9c390B 103d3a0C cb0700B 114db00C
     cb0700B 1162c80C c9b580B 10ba080C dd7c00B 26a61f50C 2f395b0B c1cc80C f92b80B eff100C
     eff100B 11753d0C f15090B c5dd20C fa6ef0B eead90C eff100B eff100C eff100B f92b80C e6b680B
     8b930e0C af4970B 130b4b0C af5780B 142ff80C 9ce280B 142ff80C 9ce280B 2a5b6560C e6b680B
     eff100C eff100B eff100C eff100B eff100C eff100B f00d20C f92b80B eff100C eff100B eff100C
     eff100B eff100C eff100B eff100C eff100B eff100C eff100B eff100C f92b80B eff100C eff100B
     eff100C eff100B eff100C eff100B eff100C eff100B eff100C eff100B / 7cc 3 5 0 e10 1c20 a 5 0
     e10 e10"),
  ("Europe/Chisinau", "1b08,1af4,1878,1c20,2a30,e10,3840 -a9493708B 47b4d614C 194532fcD 18e2158E
     b0a900D eff100E eff100D f92b80E eff100D eff100E eff100D eff100E eff100D eff100E eff100D
     eff100E eff100D eff100E eff100D 1a48e80E 1bae9f0D 26fcdc0F c1cc80D f92b80F eff100D bc5c50E
     44d91770G f13470E efff10G f13470E efff10G f13470E f15090G f00d20E eff100G eff100E eff100G
     eff100E eff100G eff100E eff100G eff100E eff100G eff100E eff100G 3750f0E c1e8a0D eff100E
     eff100D efd4e0E efe2f0D efff10E efe2f0D efff10E efe2f0D efff10E efe2f0D f93990E 114ccf0D /
     7cd 3 5 0 0 2a30 a 5 0 0 1c20"),
  ("Europe/Dublin", "-5f1,81f,0,e10 -64d94c6fB af5780C f9258fD d59300C f7da00D fa7d00C ee9f80D
     f14280C ee9f80D 1162c80C d2f000D f14280C e56500D 1026600C 1026600D c1cc80C 114db00D d44180C
     114db00D dd7c00C 1026600D dd7c00C f92b80D e6b680C 10ba080D dd7c00C 1026600D dd7c00C f92b80D
     e6b680C 1026600D dd7c00C 1026600D dd7c00C f92b80D eff100C 1026600D dd7c00C f92b80D e6b680C
     1026600D dd7c00C 1026600D dd7c00C f92b80D e6b680C 1026600D 11e1580C 813300D c6fd680C
     d44180D 1308a80C dd7c00D 1026600C cb0700D 114db00C dd7c00D f92b80C e6b680D f92b80C eff100D
     f92b80C e6b680D dd7c00C f92b80D e6b680C 1026600D dd7c00C 10ba080D dd7c00C f92b80D e6b680C
     1026600D dd7c00C 1026600D dd7c00C f92b80D e6b680C e6b680D 11e1580C c1cc80D 11e1580C cb0700D
     114db00C c1cc80D 11e1580C c1cc80D 11e1580C c1cc80D 11e1580C c1cc80D 1275000C 93a800D
     6f51a80C b89200D 1275000C b89200D 1275000C b89200D 1275000C b89200D 1275000C c1cc80D
     11e1580C c1cc80D 11e1580C c1cc80D 1275000C b89200D 1275000C b89200D 1275000C caf8f0D
     114db00C cb0700D 114db00C cb0700D 114db00C cb0700D 11e1580C cb0700D 114db00C cb0700D
     114db00C cb0700D 114db00C cb0700D 114db00C cb0700D 11e1580C c1cc80D 11e1580C cb0700D
     114db00C cb0700D 114db00C cb0700D 114db00C cb0700D 114db00C cb0700D 114db00C / 7cc 3 5 0
     e10 e10 a 5 0 e10 0"),
  ("Europe/Gibraltar", "-504,0,e10,1c20 -a82ef5fcB 4355a39cC af5780B f92b80C d59300B f7da00C
     fa7d00B ee9f80C f14280B ee9f80C 1162c80B d2f000C f14280B e56500C 1026600B 1026600C c1cc80B
     114db00C d44180B 114db00C dd7c00B 1026600C dd7c00B f92b80C e6b680B 10ba080C dd7c00B
     1026600C dd7c00B f92b80C e6b680B 1026600C dd7c00B 1026600C dd7c00B f92b80C eff100B 1026600C
     dd7c00B f92b80C e6b680B 1026600C dd7c00B 1026600C dd7c00B f92b80C e6b680B 1026600C 11e1580B
     813300C 23c1cf0D 813300C 139c500D a61d00C 139c500D af5780C 1308a80D dd7c00C 103b780D
     891c00C 6ecc10B f92b80C e6b680B d44180C 24dbf0D 9ce280C 6ecc10B af5780C 1308a80B cb0700C
     114db00B dd7c00C f92b80B e6b680C f92b80B eff100C f92b80B e6b680C dd7c00B f92b80C e6b680B
     1026600C dd7c00B 10ba080C dd7c00B f92b80C 2eef78f0D eff100C eff100D eff100C eff100D f92b80C
     eff100D eff100C eff100D eff100C eff100D eff100C eff100D eff100C eff100D eff100C eff100D
     f92b80C eff100D eff100C eff100D eff100C eff100D eff100C eff100D eff100C eff100D eff100C /
     7cc 3 5 0 e10 1c20 a 5 0 e10 e10"),
  ("Europe/Helsinki", "1765,1c20,2a30 -5b8c90e5B 275ae245C f29400B 4862f820C eff100B eff100C
     eff100B efff10C eff100B eff100C f92b80B eff100C eff100B eff100C eff100B eff100C eff100B
     eff100C eff100B eff100C eff100B eff100C f92b80B eff100C eff100B eff100C eff100B eff100C
     eff100B eff100C eff100B eff100C eff100B / 7cc 3 5 0 e10 2a30 a 5 0 e10 1c20"),
  ("Europe/Istanbul", "1b28,1b68,1c20,2a30,3840 -a9493728B 39d52cc0C a8021c8D c9a770C 68fa510D
     1161e70C d2fe10D f13470C e57310D 10257f0C 300a890D b9d570C 1178c10D c9a770C 1bbe0e90D
     7fd370C 49e210D 1838af0C fd2e10D 69f5af0C 1373010D a0c8f0C 1090b90D dd6df0C 1027410D
     dd6df0C f93990D e6a870C 1027410D e6a870C 1027410D dd6df0C 14427b10D 26e35f0C 1051710D
     b73270C 104f5aa0D cb0700C c1da90D 11e0770C b74e90D 1289370C b8a010D 12741f0C cb1510D
     10257f0C dd8a10D a0578f0E 530070D 20a2010C e01f00D d44180C f14280D eff100C eff100D eff100C
     eff100D eff100C eff100D eff100C eff100D f92b80C eff100D eff100C eff100D eff100C eff100D
     eff100C e6b680D f92b80C eff100D eff100C f92b80D 114db00C cb0700D 114db00C cb0700D 114db00C
     cb0700D 11e1580C c1cc80D 11e1580C c1cc80D 11e1580C cb0700D 114db00C cb0700D 114db00C
     cb0700D 11e1580C c1cc80D 11e1580C c1cc80D 11e1580C c1e8a0D 11e1580C cb0700D 114db00C
     cb0700D 114db00C cb0700D 11e1580C c31e00D 11cc400C c1cc80D 11e1580C cb0700D 114db00C
     cc5880D 1138980C cb0700D 1275000C b89200D"),
  ("Europe/Kaliningrad", "1338,e10,1c20,2a30,3840 -905da4b8B 2b69bc18C c9c390B 103d3a0C cb0700B
     114db00C cb0700B 2884da00C 4ddd980B c1cc80C f92b80B eff100C eff100B eff100C 236e50D f528f0C
     cf0990D 41cdf0f0E f13470D efff10E f13470D efff10E f13470D f15090E f00d20D eff100E eff100D
     eff100E eff100D eff100E eff100D eff100E eff100D 1dff010C eff100D f92b80C eff100D eff100C
     eff100D eff100C eff100D eff100C eff100D eff100C eff100D eff100C f92b80D 114db00C cb0700D
     114db00C cb0700D 114db00C cb0700D 11e1580C c1cc80D 11e1580C c1cc80D 11e1580C cb0700D
     114db00C cb0700D 114db00C cb0700D 11e1580C c1cc80D 11e1580C c1cc80D 11e1580C c1cc80D
     11e1580C cb0700D 114db00C cb0700D 114db00C cb0700D 11e1580C c1cc80D 6bdad70C"),
  ("Europe/Kirov", "2e98,2a30,3840,4650 -5effc680B 14a3d1d0C 5f838e70D f13470C efff10D f13470C
     efff10D f13470C f15090D f00d20C eff100D eff100C eff100D eff100C eff100D eff100C eff100D
     eff100C 1dff010B eff100C f92b80B eff100C 2cfd300B eff100C eff100B eff100C eff100B eff100C
     eff100B f92b80C 114db00B cb0700C 114db00B cb0700C 114db00B cb0700C 11e1580B c1cc80C
     11e1580B c1cc80C 11e1580B cb0700C 114db00B cb0700C 114db00B cb0700C 11e1580B c1cc80C
     11e1580B c1cc80C 11e1580B c1cc80C 11e1580B cb0700C 114db00B cb0700C 114db00B cb0700C
     11e1580B c1cc80C 6bdad70B"),
  ("Europe/Kyiv", "1c9c,1c20,2a30,e10,3840 -55e6589cB b8a71fcC 15291570B 21a1c40D c1cc80B
     f92b80D 2b6560C 4659ff60E f13470C efff10E f13470C efff10E f13470C f15090E f00d20C eff100E
     eff100C eff100E eff100C eff100E eff100C eff100E eff100C eff100E eff100C eff100E 8124f0C
     257f6a0B eff100C eff100B eff100C eff100B eff100C eff100B eff100C eff100B f92b80C 114e910B /
     7cd 3 5 0 e10 2a30 a 5 0 e10 1c20"),
  ("Europe/Lisbon", "-89d,0,e10,1c20 -6d197180B 864def0C b35a10B 9e3400C 12c87f0B b4ab90C
     12c87f0B b4ab90C 12c87f0B b5fd10C 12c87f0B b4ab90C 12c87f0B 4b64c80C e17080B 2e24800C
     dd7c00B f92b80C e6b680B 1026600C e6b680B 1026600C dd7c00B 2e24800C dd7c00B eff100C eff100B
     2d90d80C eff100B e6b680C f92b80B 1026600C dd7c00B eff100C eff100B e6b680C f92b80B 1026600C
     11e1580B 813300C 129f300B ed4e00C f14280B d2f000C 3750f0D 93a800C 5c5710B b89200C 2e1670D
     af5780C 531c90B af5780C 3750f0D a61d00C 531c90B af5780C 3750f0D a61d00C 531c90B d44180C
     eff100B f01b30C eff100B eff100C eff100B eff100C eff100B eff100C eff100B eff100C f92b80B
     eff100C eff100B eff100C eff100B eff100C eff100B eff100C eff100B eff100C f92b80B eff100C
     eff100B eff100C eff100B eff100C eff100B eff100C eff100B eff100C eff100B eff100C f92b80B
     eff100C eff100B eff100C eff100B eff100C eff100B eff100C 13b7e360B eff100C eff100B f93990C
     eff100B eff100C eff100B f92b80C e6b680B efe2f0C eff100B eff100C eff100B eff100C eff100B
     eff100C f92b80B eff100C eff100B efff10C eff100B eff100C eff100B eff100C eff100B eff100C
     eff100B eff100C f92b80B eff100C eff100B eff100C 1dfe200D eff100C eff100D eff100C eff100D
     eff100C 20e0680B / 7cd 3 5 0 e10 e10 a 5 0 e10 0"),
  ("Europe/London", "-4b,0,e10,1c20 -e5a2f635B 80c9a3d5C af5780B f92b80C d59300B f7da00C fa7d00B
     ee9f80C f14280B ee9f80C 1162c80B d2f000C f14280B e56500C 1026600B 1026600C c1cc80B 114db00C
     d44180B 114db00C dd7c00B 1026600C dd7c00B f92b80C e6b680B 10ba080C dd7c00B 1026600C dd7c00B
     f92b80C e6b680B 1026600C dd7c00B 1026600C dd7c00B f92b80C eff100B 1026600C dd7c00B f92b80C
     e6b680B 1026600C dd7c00B 1026600C dd7c00B f92b80C e6b680B 1026600C 11e1580B 813300C
     23c1cf0D 813300C 139c500D a61d00C 139c500D af5780C 1308a80D dd7c00C 103b780D 891c00C
     6ecc10B f92b80C e6b680B d44180C 24dbf0D 9ce280C 6ecc10B af5780C 1308a80B cb0700C 114db00B
     dd7c00C f92b80B e6b680C f92b80B eff100C f92b80B e6b680C dd7c00B f92b80C e6b680B 1026600C
     dd7c00B 10ba080C dd7c00B f92b80C e6b680B 1026600C dd7c00B 1026600C dd7c00B f92b80C e6b680B
     e6b680C 11e1580B c1cc80C 11e1580B cb0700C 114db00B c1cc80C 11e1580B c1cc80C 11e1580B
     c1cc80C 11e1580B c1cc80C 1275000B 93a800C 6f51a80B b89200C 1275000B b89200C 1275000B
     b89200C 1275000B b89200C 1275000B c1cc80C 11e1580B c1cc80C 11e1580B c1cc80C 1275000B
     b89200C 1275000B b89200C 1275000B caf8f0C 114db00B cb0700C 114db00B cb0700C 114db00B
     cb0700C 11e1580B cb0700C 114db00B cb0700C 114db00B cb0700C 114db00B cb0700C 114db00B
     cb0700C 11e1580B c1cc80C 11e1580B cb0700C 114db00B cb0700C 114db00B cb0700C 114db00B
     cb0700C 114db00B cb0700C 114db00B / 7cc 3 5 0 e10 e10 a 5 0 e10 0"),
  ("Europe/Madrid", "-374,0,e10,1c20 -81c94b00B 208410f0C e57310B efe2f0C f15090B 88482f0C
     e17e90B 2e239f0C dd8a10B f91d70C e6c490B 1026600C e6b680B 10257f0C dd8a10B e79da70C 8e7010B
     efe2f0C 24dbf0D cc5880C 1e7e720B d43370C 4004f70D 9f9390C 12dd970D dd8a10C 10257f0D dd8a10C
     10257f0D dd8a10C 10257f0D dd8a10C 4ddcb70D cb1510C 2e2471f0D e6c490C f91d70D e6c490C
     e6a870D efff10C f91d70D e6c490C f947a0D eff100C eff100D eff100C f92b80D e6b680C eff100D
     eff100C eff100D eff100C eff100D eff100C eff100D f92b80C eff100D eff100C eff100D eff100C
     eff100D eff100C eff100D eff100C eff100D eff100C eff100D f92b80C eff100D eff100C eff100D
     eff100C eff100D eff100C eff100D eff100C eff100D eff100C / 7cc 3 5 0 e10 1c20 a 5 0 e10 e10"),
  ("Europe/Malta", "d9c,e10,1c20 -8f422c9cB 2a7b250cC 9cd470B efff10C f13470B d2fe10C 1161e70B
     c08910C 11e0770B dd8a10C efe2f0B 25201b90C 47b1520B c1cc80C f92b80B ee9f80C dd7c00B
     103b780C dabce0B f15ea0C 10ba080B d42560C 10ba080B c1e8a0C 11e1580B 212a1fe0C a60ef0B
     1430d90C 9ce280B 142ff80C 9ce280B 14c3a00C 9ce280B 142ff80C 9ce280B 139c500C a61d00B
     142ff80C a61d00B ee9f80C eff100B 10cf200C c31e00B 11ce020C caf8f0B 114e910C caf8f0B
     114e910C caf8f0B 114e910C caf8f0B 114e910C caf8f0B 103c590C e556f0B f93990C eff100B eff100C
     eff100B eff100C eff100B eff100C f92b80B eff100C eff100B eff100C eff100B eff100C eff100B
     eff100C eff100B eff100C eff100B eff100C f92b80B eff100C eff100B eff100C eff100B eff100C
     eff100B eff100C eff100B eff100C eff100B / 7cc 3 5 0 e10 1c20 a 5 0 e10 e10"),
  ("Europe/Minsk", "19d8,19c8,1c20,2a30,e10,3840 -a94935d8B 5362e010C b8a6f28D 14ba5770C
     288da40E c1cc80C f92b80E eff100C 77ce50D 451da570F f13470D efff10F f13470D efff10F f13470D
     f15090F f00d20D eff100F eff100D eff100F eff100D eff100F eff100D eff100F eff100D eff100F
     eff100D 3c90c90C eff100D eff100C eff100D eff100C eff100D eff100C eff100D eff100C f92b80D
     114db00C cb0700D 114db00C cb0700D 114db00C cb0700D 11e1580C c1cc80D 11e1580C c1cc80D
     11e1580C cb0700D 114db00C cb0700D 114db00C cb0700D 11e1580C c1cc80D 11e1580C c1cc80D
     11e1580C c1cc80D 11e1580C cb0700D 114db00C cb0700D 114db00C cb0700D 11e1580C c1cc80D"),
  ("Europe/Moscow", "2339,2377,3187,3f97,3840,2a30,4650,1c20 -64a0e139B 1dfd3b2C ebfc80B cc4a70D
     8d1e90C 15414f0D 27cc97E 3c6cc0F 2d3c780E 2cc4f0G d83600E 279b10F 1e14190H e85d410F
     5f838e70E f13470F efff10E f13470F efff10E f13470F f15090E f00d20F eff100E eff100F eff100E
     eff100F eff100E eff100F eff100E eff100F eff100E eff100F eff100E f92b80F 1dff010H 93a800F
     5c3af0E eff100F eff100E eff100F eff100E eff100F eff100E eff100F f92b80E 114db00F cb0700E
     114db00F cb0700E 114db00F cb0700E 11e1580F c1cc80E 11e1580F c1cc80E 11e1580F cb0700E
     114db00F cb0700E 114db00F cb0700E 11e1580F c1cc80E 11e1580F c1cc80E 11e1580F c1cc80E
     11e1580F cb0700E 114db00F cb0700E 114db00F cb0700E 11e1580F c1cc80E 6bdad70F"),
  ("Europe/Paris", "231,0,e10,1c20 -6e9fafb1B 9e728a1C 8fb380B e56500C 103b780B c9b580C 1162c80B
     c07b00C 11f6700B ae0600C 14c3a00B bb3500C 128a180B c71280C 1026600B 1308a80C af5780B
     e6b680C f92b80B eff100C eff100B 1026600C dd7c00B f92b80C e6b680B 1026600C e6b680B 1026600C
     dd7c00B f92b80C e6b680B 1026600C dd7c00B eff100C eff100B e6b680C 1026600B eff100C eff100B
     e6b680C f92b80B 1026600C dd7c00B eff100C eff100B e6b680C f92b80B 1026600C 11e1580B 815d30C
     921e40D 47b2330C c1cc80D f92b80C eff100D f7bde0C e82420D dc2a80C 396cf870D efe2f0C f947a0D
     e6b680C f92b80D eff100C eff100D eff100C f92b80D e6b680C eff100D eff100C eff100D eff100C
     eff100D eff100C eff100D f92b80C eff100D eff100C eff100D eff100C eff100D eff100C eff100D
     eff100C eff100D eff100C eff100D f92b80C eff100D eff100C eff100D eff100C eff100D eff100C
     eff100D eff100C eff100D eff100C / 7cc 3 5 0 e10 1c20 a 5 0 e10 e10"),
  ("Europe/Prague", "d88,e10,1c20,0 -93301508B 2e3c2c68C c9c390B 103d3a0C cb0700B 114db00C
     cb0700B 2884da00C 4ddd980B c1cc80C f92b80B eff100C eff100B eff100C eff100B 11e1580C c9b580B
     49e210D 6ebe00B 49c5f0C dd7c00B 1026600C dd7c00B f7da00C e80800B 377aaf80C eff100B f92b80C
     e6b680B eff100C eff100B eff100C eff100B eff100C eff100B eff100C f92b80B eff100C eff100B
     eff100C eff100B eff100C eff100B eff100C eff100B eff100C eff100B eff100C f92b80B eff100C
     eff100B eff100C eff100B eff100C eff100B eff100C eff100B eff100C eff100B / 7cc 3 5 0 e10
     1c20 a 5 0 e10 e10"),
  ("Europe/Riga", "16a2,24b2,1c20,2a30,e10,3840 -61467802B cb0700A 103b780B 433c80A d1c6ee0C
     1ac77282D 1b300f0C 284e5c0E c1cc80C f92b80E eff100C eff100E e6460D 44971e60F f13470D
     efff10F f13470D efff10F f13470D f15090F f00d20D eff100F eff100D eff100F eff100D eff100F
     eff100D eff100F eff100D 1dff010C eff100D f92b80C eff100D eff100C eff100D eff100C eff100D
     eff100C eff100D eff100C eff100D eff100C f92b80D eff100C efff10D 114db00C cb0700D 114db00C
     cb0700D 11e1580C / 7d1 3 5 0 e10 2a30 a 5 0 e10 1c20"),
  ("Europe/Rome", "bb4,e10,1c20 -8f437e90B 2a7c7700C 9cd470B efff10C f13470B d2fe10C 1161e70B
     c08910C 11e0770B dd8a10C efe2f0B 25201b90C 47b1520B c1cc80C f92b80B eff100C dc2a80B
     103b780C dabce0B f15ea0C 10ba080B d42560C 10ba080B c1e8a0C 11e1580B 212a1fe0C a60ef0B
     1430d90C 9ce280B 142ff80C 9ce280B 14c3a00C 9ce280B 142ff80C 9ce280B 139c500C a61d00B
     142ff80C a61d00B 142ff80C 9ce280B 139c500C a61d00B 142ff80C 9ce280B 142ff80C 9ce280B
     139c500C a61d00B 142ff80C a61d00B 139c500C a61d00B f947a0C e6b680B eff100C eff100B eff100C
     eff100B eff100C eff100B eff100C f92b80B eff100C eff100B eff100C eff100B eff100C eff100B
     eff100C eff100B eff100C eff100B eff100C f92b80B eff100C eff100B eff100C eff100B eff100C
     eff100B eff100C eff100B eff100C eff100B / 7cc 3 5 0 e10 1c20 a 5 0 e10 e10"),
  ("Europe/Samara", "2ef4,2a30,3840,4650 -5effc680B 14a3d1d0C 5f838e70D f13470C efff10D f13470C
     efff10D f13470C f15090D f00d20C eff100D eff100C eff100D eff100C eff100D eff100C eff100D
     eff100C 1dff010B eff100C f92b80B 1fb9f90C d42560D eff100C eff100D eff100C eff100D eff100C
     eff100D eff100C f92b80D 114db00C cb0700D 114db00C cb0700D 114db00C cb0700D 11e1580C c1cc80D
     11e1580C c1cc80D 11e1580C cb0700D 114db00C cb0700D 114db00C cb0700D 11e1580C c1cc80D
     11e1580C c1cc80D 11e1580C c1cc80D 11e1580C cb0700D 114db00C cb0700D 114db00C 1e92a90B
     c1cc80C"),
  ("Europe/Saratov", "2b32,2a30,3840,4650 -5effc680B 14a3d1d0C 5f838e70D f13470C efff10D f13470C
     efff10D f13470C f15090D f00d20C eff100D eff100C eff100D eff100C eff100D eff100C 1dff010B
     eff100C eff100B eff100C f92b80B eff100C 2cfd300B eff100C eff100B eff100C eff100B eff100C
     eff100B f92b80C 114db00B cb0700C 114db00B cb0700C 114db00B cb0700C 11e1580B c1cc80C
     11e1580B c1cc80C 11e1580B cb0700C 114db00B cb0700C 114db00B cb0700C 11e1580B c1cc80C
     11e1580B c1cc80C 11e1580B c1cc80C 11e1580B cb0700C 114db00B cb0700C 114db00B cb0700C
     11e1580B c1cc80C 6bdad70B 3f73110C"),
  ("Europe/Simferopol", "1ff8,1fe0,1c20,2a30,e10,3840 -a9493bf8B 5362e018C b8a7540D 15607470C
     1e2bd40E c1cc80C f92b80E eff100C d04d0D 45886ef0F f13470D efff10F f13470D efff10F f13470D
     f15090F f00d20D eff100F eff100D eff100F eff100D eff100F eff100D eff100F eff100D eff100F
     eff100D 1712400C 347d990D eff100C eff100D eff100C eff100D 2dfa50F c1e8a0D eff100F eff100D
     f90f60F 1150530D 1dff010C cb0700D 114db00C cb0700D 11e1580C c1cc80D 11e1580C c1cc80D
     11e1580C cb0700D 114db00C cb0700D 114db00C cb0700D 11e1580C c1cc80D 11e1580C c1cc80D
     11e1580C c1cc80D 11e1580C cb0700D 114db00C cb0700D 114db00C cb0700D 11e1580C c1cc80D
     11e1580C c1cc80D 11e1580C cb0700D 114db00C caf8f0F 114bee0D"),
  ("Europe/Sofia", "15dc,1b68,1c20,e10,2a30 -a94931dcB 1c0d14f4C 5a2367f8D c1cc80C f92b80D
     eff100C eff100D efff10C 3ff1cb30E f15090C f7cbf0E e81610C f7cbf0E e6d2a0C f90f60E e6e0b0C
     eff100E eff100C eff100E f92b80C eff100E eff100C eff100E eff100C eff100E eff100C eff100E
     eff100C eff100E eff100C eff100E f92b80C efd4e0E efe2f0C efff10E efe2f0C efff10E efe2f0C
     efff10E efe2f0C efff10E efe2f0C f93990E 114ccf0C / 7cd 3 5 0 e10 2a30 a 5 0 e10 1c20"),
  ("Europe/Tallinn", "1734,e10,1c20,2a30,3840 -61a6d234B 6062c4C cb0700B 17b93e0A 37343dcC
     243d4694D 215e170C 220b3c0B c1cc80C f92b80B eff100C e297d0D 44b2dbf0E f13470D efff10E
     f13470D efff10E f13470D f15090E f00d20D eff100E eff100D eff100E eff100D eff100E eff100D
     eff100E eff100D 1dff010C eff100D f92b80C eff100D eff100C eff100D eff100C eff100D eff100C
     eff100D eff100C eff100D eff100C f92b80D 114db00C cb0700D 114db00C cb0700D 114e910C cb0700D
     11e1580C / 7d2 3 5 0 e10 2a30 a 5 0 e10 1c20"),
  ("Europe/Tirane", "1298,e10,1c20 -6955cb98B 31c35308C 479c3a0B c1cc80C fd200B 3a6f5060C
     c70470B 1163a90C caf8f0B 118dd90C caf8f0B 11e2390C c1be70B 11cd210C c30ff0B 11cd210C
     c30ff0B 11cd210C caf8f0B 10d0010C caf8f0B 11e2390C caf8f0B 103c590C dacaf0B f15090C f00d20B
     eff100C eff100B eff100C eff100B eff100C eff100B eff100C eff100B eff100C eff100B eff100C
     f92b80B eff100C eff100B eff100C eff100B eff100C eff100B eff100C eff100B eff100C eff100B /
     7cc 3 5 0 e10 1c20 a 5 0 e10 e10"),
  ("Europe/Ulyanovsk", "2d60,2a30,3840,4650,1c20 -5effc680B 14a3d1d0C 5f838e70D f13470C efff10D
     f13470C efff10D f13470C f15090D f00d20C eff100D eff100C eff100D eff100C eff100D eff100C
     eff100D eff100C 1dff010B eff100C f92b80B 1dff010E 93a800B 5c3af0C eff100B eff100C eff100B
     eff100C eff100B eff100C eff100B f92b80C 114db00B cb0700C 114db00B cb0700C 114db00B cb0700C
     11e1580B c1cc80C 11e1580B c1cc80C 11e1580B cb0700C 114db00B cb0700C 114db00B cb0700C
     11e1580B c1cc80C 11e1580B c1cc80C 11e1580B c1cc80C 11e1580B cb0700C 114db00B cb0700C
     114db00B cb0700C 11e1580B c1cc80C 6bdad70B 2aaf710C"),
  ("Europe/Vienna", "f51,e10,1c20 -905da0d1B 2b69b831C c9c390B 103d3a0C cb0700B 114db00C cb0700B
     2eb8280C d44180B 24c51600C 4ddd980B c1cc80C f92b80B eff100C eff100B eff100C d2f00B 1e3d680C
     e80800B ee9f80C eff100B 1026600C dd7c00B 3b4391e0C e6a870B f01b30C eff100B eff100C eff100B
     eff100C eff100B eff100C f92b80B eff100C eff100B eff100C eff100B eff100C eff100B eff100C
     eff100B eff100C eff100B eff100C f92b80B eff100C eff100B eff100C eff100B eff100C eff100B
     eff100C eff100B eff100C eff100B / 7cc 3 5 0 e10 1c20 a 5 0 e10 e10"),
  ("Europe/Vilnius", "17bc,13b0,1668,e10,1c20,2a30,3840 -a94933bcB 4598530cC 5362b48D 16be658E
     754770D 25465710F 1ac5b60E 28e2040D c1cc80E f92b80D eff100E 9e09d0F 44f769f0G f13470F
     efff10G f13470F efff10G f13470F f15090G f00d20F eff100G eff100F eff100G eff100F eff100G
     eff100F eff100G eff100F 1dff010E eff100F f92b80E eff100F eff100E eff100F eff100E eff100F
     eff100E eff100F eff100E eff100F eff100E f92b80F 114db00E cb0700F 114db00E 1dff010D cb0700E
     / 7d3 3 5 0 e10 2a30 a 5 0 e10 1c20"),
  ("Europe/Volgograd", "29a4,2a30,3840,4650 -5e0ab924B 13aec474C 5f838e70D f13470C efff10D
     f13470C efff10D f13470C f15090D f00d20C eff100D eff100C eff100D eff100C eff100D eff100C
     1dff010B eff100C eff100B eff100C f92b80B eff100C 2cfd300B eff100C eff100B eff100C eff100B
     eff100C eff100B f92b80C 114db00B cb0700C 114db00B cb0700C 114db00B cb0700C 11e1580B c1cc80C
     11e1580B c1cc80C 11e1580B cb0700C 114db00B cb0700C 114db00B cb0700C 11e1580B c1cc80C
     11e1580B c1cc80C 11e1580B c1cc80C 11e1580B cb0700C 114db00B cb0700C 114db00B cb0700C
     11e1580B c1cc80C 6bdad70B 788d090C 412c470B"),
  ("Europe/Warsaw", "13b0,e10,1c20,2a30 -6657d530B 163ec90C c9c390B 103d3a0C cb0700B 114db00C
     1e12570D cb0700C 517bf60B 21f961b0C 4706d00B c1cc80C f92b80B eff100C f285f0B 110d870C
     f528f0B d84410C e82420B 1138980C cb0700B 1026600C dd7c00B f92b80C e6b680B e6b59f0C 9ce280B
     eff100C eff100B 142ff80C a61d00B eff100C eff100B 139c500C a61d00B 139c500C a61d00B 139c500C
     a61d00B 142ff80C 9ce280B 178a3880C e6b680B f92b80C eff100B eff100C eff100B f92b80C e6b680B
     eff100C eff100B eff100C eff100B eff100C eff100B eff100C f92b80B eff100C eff100B eff100C
     eff100B eff100C eff100B efff10C eff100B eff100C eff100B eff100C f92b80B eff100C eff100B
     eff100C eff100B eff100C eff100B eff100C eff100B eff100C eff100B / 7cc 3 5 0 e10 1c20 a 5 0
     e10 e10"),
  ("Europe/Zurich", "800,6fa,e10,1c20 -db0f1580B 4ce31c06C 5843637aD cb0700C 114db00D cb0700C
     48619890D eff100C eff100D eff100C eff100D eff100C eff100D f92b80C eff100D eff100C eff100D
     eff100C eff100D eff100C eff100D eff100C eff100D eff100C eff100D f92b80C eff100D eff100C
     eff100D eff100C eff100D eff100C eff100D eff100C eff100D eff100C / 7cc 3 5 0 e10 1c20 a 5 0
     e10 e10"),
  ("HST", "-8ca0"),
  ("Indian/Chagos", "43e4,4650,5460 -76810864B a767e614C"),
  ("Indian/Maldives", "44e8,4650 -12d03c68B"),
  ("Indian/Mauritius", "35e8,3840,4650 -7680fa68B 8e86e7a8C d584f0B 302824b0C caf8f0B"),
  ("MET", "e10,1c20 -64f3e8a0B c9c390A 103d3a0B cb0700A 114db00B cb0700A 2884da00B 4ddd980A
     c1cc80B f92b80A eff100B eff100A eff100B dc2a80A 3b562300B e6b680A f92b80B eff100A eff100B
     eff100A f92b80B e6b680A eff100B eff100A eff100B eff100A eff100B eff100A eff100B f92b80A
     eff100B eff100A eff100B eff100A eff100B eff100A eff100B eff100A eff100B eff100A eff100B
     f92b80A eff100B eff100A eff100B eff100A eff100B eff100A eff100B eff100A eff100B eff100A /
     7cc 3 5 0 e10 1c20 a 5 0 e10 e10"),
  ("MST", "-6270"),
  ("MST7MDT", "-6270,-5460 -6159c570B 114ccf0A cb1510B 114ccf0A 29ee2310B 6d80b70A 28975d10B
     efe2f0A efff10B efe2f0A efff10B efe2f0A efff10B efe2f0A efff10B f91d70A efff10B efe2f0A
     efff10B efe2f0A 5c5710B 1838af0A 9cf090B 142f170A efff10B f91d70A e6c490B f91d70A efff10B
     efe2f0A efff10B efe2f0A efff10B efe2f0A efff10B efe2f0A efff10B f91d70A e6c490B f91d70A
     efff10B efe2f0A efff10B efe2f0A efff10B efe2f0A d44f90B 10b9270A d44f90B 114ccf0A cb1510B
     114ccf0A cb1510B 114ccf0A d44f90B 10b9270A d44f90B 10b9270A d44f90B 114ccf0A cb1510B
     114ccf0A cb1510B 114ccf0A d44f90B 10b9270A d44f90B 10b9270A d44f90B 10b9270A d44f90B
     114ccf0A cb1510B 114ccf0A cb1510B 114ccf0A d44f90B 10b9270A d44f90B 10b9270A d44f90B
     114ccf0A cb1510B 114ccf0A cb1510B 114ccf0A / 7d7 3 2 0 7e90 -5460 b 1 0 7080 -6270"),
  ("PST8PDT", "-7080,-6270 -6159b760B 114ccf0A cb1510B 114ccf0A 29ee2310B 6d80b70A 28975d10B
     efe2f0A efff10B efe2f0A efff10B efe2f0A efff10B efe2f0A efff10B f91d70A efff10B efe2f0A
     efff10B efe2f0A 5c5710B 1838af0A 9cf090B 142f170A efff10B f91d70A e6c490B f91d70A efff10B
     efe2f0A efff10B efe2f0A efff10B efe2f0A efff10B efe2f0A efff10B f91d70A e6c490B f91d70A
     efff10B efe2f0A efff10B efe2f0A efff10B efe2f0A d44f90B 10b9270A d44f90B 114ccf0A cb1510B
     114ccf0A cb1510B 114ccf0A d44f90B 10b9270A d44f90B 10b9270A d44f90B 114ccf0A cb1510B
     114ccf0A cb1510B 114ccf0A d44f90B 10b9270A d44f90B 10b9270A d44f90B 10b9270A d44f90B
     114ccf0A cb1510B 114ccf0A cb1510B 114ccf0A d44f90B 10b9270A d44f90B 10b9270A d44f90B
     114ccf0A cb1510B 114ccf0A cb1510B 114ccf0A / 7d7 3 2 0 8ca0 -6270 b 1 0 7e90 -7080"),
  ("Pacific/Apia", "b080,-a100,-a1b8,-9ab0,-8ca0,c4e0,b6d0 -91c23700B 22c83300C 495c0838D
     723d2378E f80430D e6b680E 7fa940F 798240G eff100F f92b80G e6b680F f92b80G e6b680F f92b80G
     e6b680F f92b80G e6b680F f92b80G e6b680F f92b80G eff100F f92b80G e6b680F f92b80G e6b680F
     f92b80G"),
  ("Pacific/Auckland", "a3d8,a1b8,afc8,a8c0,b6d0 -be48b358B 6efd6640C 9cd470B 1275e10D cafff8B
     114e208D cafff8B 114e208D cafff8B 114e208D d43a78B 10ba788D d43a78B 10ba788D 10b9978B
     cb0e08D 114d3f8B cb0e08D 114d3f8B cb0e08D 114d3f8B cb0e08D 114d3f8B cb0e08D 11e0e78B
     c1d388D 11e0e78B cb0e08D 40218078E 93a800D 142ff80E af5780D 139c500E a61d00D 139c500E
     a61d00D 139c500E a61d00D 139c500E a61d00D 139c500E a61d00D 139c500E af5780D 139c500E
     a61d00D 139c500E a61d00D 139c500E a61d00D 139c500E a61d00D 139c500E a61d00D 139c500E
     af5780D 139c500E a61d00D 11e1580E d44180D 10ba080E d44180D 10ba080E d44180D 10ba080E
     dd7c00D 1026600E dd7c00D 1026600E dd7c00D 1026600E dd7c00D 10ba080E d44180D 10ba080E
     d44180D 10ba080E dd7c00D 1026600E dd7c00D 1026600E dd7c00D 10ba080E d44180D 10ba080E
     d44180D 10ba080E dd7c00D 1026600E dd7c00D 1026600E dd7c00D 1026600E dd7c00D 1026600E / 7d8
     4 1 0 -8ca0 a8c0 9 5 0 -8ca0 b6d0"),
  ("Pacific/Bougainville", "91d8,89f0,8ca0,7e90,9ab0 -a949add8B 1c375268C 595591d0D 5e83690C
     82736a90E"),
  ("Pacific/Chatham", "abfc,ac44,b34c,c15c -be48bb7cB 91235238C 363e6724D 93a800C 142ff80D
     af5780C 139c500D a61d00C 139c500D a61d00C 139c500D a61d00C 139c500D a61d00C 139c500D
     a61d00C 139c500D af5780C 139c500D a61d00C 139c500D a61d00C 139c500D a61d00C 139c500D
     a61d00C 139c500D a61d00C 139c500D af5780C 139c500D a61d00C 11e1580D d44180C 10ba080D
     d44180C 10ba080D d44180C 10ba080D dd7c00C 1026600D dd7c00C 1026600D dd7c00C 1026600D
     dd7c00C 10ba080D d44180C 10ba080D d44180C 10ba080D dd7c00C 1026600D dd7c00C 1026600D
     dd7c00C 10ba080D d44180C 10ba080D d44180C 10ba080D dd7c00C 1026600D dd7c00C 1026600D
     dd7c00C 1026600D dd7c00C 1026600D / 7d8 4 1 0 -8ca0 b34c 9 5 0 -8ca0 c15c"),
  ("Pacific/Easter", "-6688,-6270,-5460,-4650 -4638bf78B 4409fbb8C c1be70B 139d310C a60ef0B
     1027410C caf8f0B 114e910C caf8f0B 11e2390C c1be70B 10bae90C d43370B 11e2390C c1be70B
     11e2390C caf8f0B 114e910C caf8f0B 114e910C caf8f0B 11e2390C c1be70B 11e2390C c1be70B
     11e2390C caf8f0B 114e910C 1dfe200D caf8f0C 114e910D caf8f0C 11e2390D c1be70C 11e2390D
     c1be70C 11e2390D efe2f0C efff10D caf8f0C 114e910D caf8f0C 11e2390D c1be70C f93990D e6a870C
     11e2390D caf8f0C 114e910D caf8f0C 114e910D caf8f0C 114e910D caf8f0C 11e2390D c1be70C
     11e2390D dd6df0C 1027410D caf8f0C 1027410D f91d70C f93990D caf8f0C 11e2390D c1be70C
     11e2390D c1be70C 11e2390D c1be70C 11e2390D caf8f0C 114e910D caf8f0C 114e910D caf8f0C
     11e2390D c1be70C 11e2390D dd6df0C 1027410D caf8f0C 114e910D e6a870C f93990D 114ccf0C
     8a7b90D 14c2bf0C a62b10D 139b6f0C af6590D 1307c70C af6590D 32c0df0C 780690D 167db70C
     780690D 167db70C 780690D 139b6f0C cb1510D 114ccf0C cb1510D 114ccf0C cb1510D 114ccf0C
     d44f90D / 7e7 4 1 6 17bb0 -5460 9 1 6 189c0 -4650"),
  ("Pacific/Efate", "9dcc,9ab0,a8c0 -6d0a3d4cB 7483d68cC 813300B 11d82b90C efe2f0B efff10C
     efe2f0B f93990C e6a870B f93990C efe2f0B efff10C efe2f0B efff10C efe2f0B efff10C efe2f0B
     efff10C efe2f0B f93990C 9cd470B 167f790C 77ea70B"),
  ("Pacific/Fakaofo", "-a088,-9ab0,b6d0 -81c8aa78B d0c64428C"),
  ("Pacific/Fiji", "a7c0,a8c0,b6d0 -65ec4e40B 9c276620C 9ce280B 14c3a00C 93a800B 12595080C
     9ce280B 114db00C af5780B 1308a80C 77f880B 167e980C 77f880B 1712400C 6eaff0B 17a6c90C
     658380B 17a5e80C 658380B 1839900C 5c4900B 1839900C 5c4900B 1839900C 5c4900B 18cd380C
     530e80B 1c43280C 24ea00B"),
  ("Pacific/Galapagos", "-5400,-4650,-5460 -495bb380B 677477d0C cfe4690B 5ae970C"),
  ("Pacific/Gambier", "-7e84,-7e90 -6bafb7fcB"),
  ("Pacific/Guadalcanal", "95f4,9ab0 -6bb0cc74B"),
  ("Pacific/Guam", "-c9cc,87b4,8ca0,7e90,9ab0 -eb1e3a34B 69546780C 4d016894D 4f6f410C 1c093410E
     2ff3af0C c640710E 2a4278cC c1f674E 5c3af0C 139d310E af4970C 1309890E af4970C 44a3f90E
     5c3af0C 43bbf10E 73f62cC 1430d54E a60ef0C"),
  ("Pacific/Honolulu", "-93fe,-93a8,-8598,-8ca0 -8b1f8f42B 4624d28aC 1c2e10B 1067cc70C 6d80b70B
     32c2a10D"),
  ("Pacific/Kanton", "0,-a8c0,-9ab0,b6d0 -3cd32480B 4f292940C 1caf34f0D"),
  ("Pacific/Kiritimati", "-9380,-9600,-8ca0,c4e0 -81c8b780B 941ea980C 1caf39a0D"),
  ("Pacific/Kosrae", "-b8b4,98cc,9ab0,7e90,8ca0,a8c0 -eb1e4b4cB 69546780C 19db799cD 8286420C
     21b33be0E 7fcd490D 8270490C 2d750c60F 37054bf0C"),
  ("Pacific/Kwajalein", "9ce0,9ab0,8ca0,7e90,-a8c0,a8c0 -81c9e7e0B 43b71db0C 7fcd490D 55c7790B
     303f9960E 2ceff2f0F"),
  ("Pacific/Marquesas", "-82c8,-8598 -6bafb3b8B"),
  ("Pacific/Nauru", "9c7c,a1b8,7e90,a8c0 -5c18d4fcB 28a9bec4C 5b23e28B 3ede80f8D"),
  ("Pacific/Niue", "-9f4c,-9f60,-9ab0 -205e95b4B 16054e14C"),
  ("Pacific/Norfolk", "9d78,9d80,a1b8,afc8,9ab0,a8c0 -81c9e878B 5e0be0f8C 2ccdd1e8D a61d00C
     4c59ff00E 788c988F / 7e4 4 1 0 -7e90 9ab0 a 1 0 -7e90 a8c0"),
  ("Pacific/Noumea", "9c0c,9ab0,a8c0 -6d0a3b8cB 7bf0f5dcC 700170B 16fe090C 7152f0B 21685cb0C
     77f880B"),
  ("Pacific/Pago_Pago", "b178,-a008,-9ab0 -91c237f8B 22c83300C"),
  ("Pacific/Palau", "-d36c,7e14,7e90 -eb1e3094B 69546780C"),
  ("Pacific/Pitcairn", "-79f4,-7788,-7080 -81c8d10cB b70d1314C"),
  ("Pacific/Port_Moresby", "89f8,89f0,8ca0 -a949a5f8B 1c374a88C"),
  ("Pacific/Rarotonga", "bbb8,-95c8,-93a8,-8598,-8ca0 -83b32338B 63548400C 310aba60D 9399f0E
     139cc08D a615f8E 139cc08D a615f8E 139cc08D af5078E 139cc08D a615f8E 139cc08D a615f8E
     139cc08D a615f8E 139cc08D a615f8E 139cc08D a615f8E 139cc08D af5078E 139cc08D a615f8E
     139cc08D a615f8E 139cc08D a615f8E"),
  ("Pacific/Tahiti", "-8c38,-8ca0 -6bafaa48B"),
  ("Pacific/Tarawa", "a234,a8c0 -81c9ed34B"),
  ("Pacific/Tongatapu", "ad40,ad70,b6d0,c4e0 -2dba63c0B 1ccc43d0C 48e967c0D d83600C 1308a80D
     6eaff0C 1713210D 6eaff0C 1bcb3d90D 5c4900C"),
  ("WET", "0,e10 da46390B e6b680A f92b80B eff100A eff100B eff100A f92b80B e6b680A eff100B
     eff100A eff100B eff100A eff100B eff100A eff100B f92b80A eff100B eff100A eff100B eff100A
     eff100B eff100A eff100B eff100A eff100B eff100A eff100B f92b80A eff100B eff100A eff100B
     eff100A eff100B eff100A eff100B eff100A eff100B eff100A / 7cc 3 5 0 e10 e10 a 5 0 e10 0")]

end GigListings.Calendar
