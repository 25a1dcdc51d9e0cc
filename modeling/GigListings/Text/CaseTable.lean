import GigListings.Text.CaseRuns

namespace GigListings.Text

/-! Case pairs beyond ASCII, and the characters whose other case is several characters. -/

def lowerRuns : CaseRuns := .ofText
  "c0 17 1 20 18 7 1 20 28 18 2 1 32 3 2 1 7 8 2 1 11 17 2 1 2e 1 1 -79 1 3 2 1 8 1 1 d2 1 2 2
   1 4 1 1 ce 1 1 1 1 2 2 1 cd 2 1 1 1 3 1 1 4f 1 1 1 ca 1 1 1 cb 1 1 1 1 2 1 1 cd 1 1 1 cf 2
   1 1 d3 1 1 1 d1 1 1 1 1 4 1 1 d3 1 1 1 d5 2 1 1 d6 1 3 2 1 6 1 1 da 1 1 1 1 2 1 1 da 3 1 1
   1 2 1 1 da 1 1 1 1 2 2 1 d9 2 2 2 1 4 1 1 db 1 1 1 1 4 1 1 1 8 1 1 2 1 1 1 1 2 1 1 2 1 1 1
   1 2 1 1 2 1 9 2 1 13 9 2 1 13 1 1 2 1 2 2 1 4 1 1 -61 1 1 1 -38 1 14 2 1 28 1 1 -82 2 9 2 1
   18 1 1 2a2b 1 1 1 1 2 1 1 -a3 1 1 1 2a28 3 1 1 1 2 1 1 -c3 1 1 1 45 1 1 1 47 1 5 2 1 12a 2
   2 1 6 1 1 1 9 1 1 74 7 1 1 26 2 3 1 25 4 1 1 40 2 2 1 3f 3 11 1 20 12 9 1 20 2c 1 1 8 9 c 2
   1 1c 1 1 -3c 3 1 1 1 2 1 1 -7 1 1 1 1 3 3 1 -82 3 10 1 50 10 20 1 20 50 11 2 1 2a 1b 2 1 36
   1 1 f 1 7 2 1 f 30 2 1 61 26 1 30 b6f 26 1 1c60 27 1 1 1c60 6 1 1 1c60 2d3 50 1 97d0 50 6 1
   8 8a0 2b 1 -bc0 2d 3 1 -bc0 143 4b 2 1 9e 1 1 -1dbf 2 30 2 1 68 8 1 -8 10 6 1 -8 10 8 1 -8
   10 8 1 -8 10 6 1 -8 11 4 2 -8 f 8 1 -8 20 8 1 -8 10 8 1 -8 10 8 1 -8 10 2 1 -8 2 2 1 -4a 2
   1 1 -9 c 4 1 -56 4 1 1 -9 c 2 1 -8 2 2 1 -64 e 2 1 -8 2 2 1 -70 2 1 1 -7 c 2 1 -80 2 2 1
   -7e 2 1 1 -9 12a 1 1 -1d5d 4 1 1 -20bf 1 1 1 -2046 7 1 1 1c 2e 10 1 10 23 1 1 1 333 1a 1 1a
   74a 30 1 30 60 1 1 1 2 1 1 -29f7 1 1 1 -ee6 1 1 1 -29e7 3 3 2 1 6 1 1 -2a1c 1 1 1 -29fd 1 1
   1 -2a1f 1 1 1 -2a1e 2 1 1 1 3 1 1 1 9 2 1 -2a3f 2 32 2 1 6b 2 2 1 7 1 1 1 794e 17 2 1 40 e
   2 1 a2 7 2 1 10 1f 2 1 47 2 2 1 4 1 1 -8a04 1 5 2 1 d 1 1 1 2 1 1 -a528 3 2 2 1 6 a 2 1 14
   1 1 -a544 1 1 1 -a54f 1 1 1 -a54b 1 1 1 -a541 1 1 1 -a544 2 1 1 -a512 1 1 1 -a52a 1 1 1
   -a515 1 1 1 3a0 1 8 2 1 10 1 1 -30 1 1 1 -a543 1 1 1 -8a38 1 2 2 1 9 1 1 1 6 2 2 1 1f 1 1 1
   572c 1a 1 20 4df 28 1 28 b0 24 1 28 c0 b 1 27 c f 1 27 10 7 1 27 8 2 1 27 6ec 33 1 40 c20
   20 1 20 55a0 20 1 20 7ac0 22 1 22"

def lowerExpansions : List (Char × List Char) := expansionsOfText
  "130:69,307"

def upperRuns : CaseRuns := .ofText
  "b5 1 1 2e7 2b 17 1 -20 18 7 1 -20 7 1 1 79 2 18 2 -1 30 1 1 -e8 2 3 2 -1 7 8 2 -1 11 17 2
   -1 2f 3 2 -1 5 1 1 -12c 1 1 1 c3 3 2 2 -1 5 1 1 -1 4 1 1 -1 6 1 1 -1 3 1 1 61 4 1 1 -1 1 1
   1 a3 4 1 1 82 3 3 2 -1 7 1 1 -1 5 1 1 -1 3 1 1 -1 4 2 2 -1 5 1 1 -1 4 1 1 -1 2 1 1 38 6 1 1
   -1 1 1 1 -2 2 1 1 -1 1 1 1 -2 2 1 1 -1 1 1 1 -2 2 8 2 -1 f 1 1 -4f 2 9 2 -1 13 1 1 -1 1 1 1
   -2 2 1 1 -1 4 14 2 -1 2a 9 2 -1 19 1 1 -1 3 2 1 2a3f 3 1 1 -1 5 5 2 -1 9 1 1 2a1f 1 1 1
   2a1c 1 1 1 2a1e 1 1 1 -d2 1 1 1 -ce 2 2 1 -cd 3 1 1 -ca 2 1 1 -cb 1 1 1 a54f 4 1 1 -cd 1 1
   1 a54b 2 1 1 -cf 2 1 1 a528 1 1 1 a544 2 1 1 -d1 1 1 1 -d3 1 1 1 a544 1 1 1 29f7 1 1 1 a541
   3 1 1 -d3 2 1 1 29fd 1 1 1 -d5 3 1 1 -d6 8 1 1 29e7 3 1 1 -da 2 1 1 a543 1 1 1 -da 4 1 1
   a52a 1 1 1 -da 1 1 1 -45 1 2 1 -d9 2 1 1 -47 6 1 1 -db b 1 1 a515 1 1 1 a512 a7 1 1 54 2c 2
   2 -1 6 1 1 -1 4 3 1 82 31 1 1 -26 1 3 1 -25 4 11 1 -20 11 1 1 -1f 1 9 1 -20 9 1 1 -40 1 2 1
   -3f 3 1 1 -3e 1 1 1 -39 4 1 1 -2f 1 1 1 -36 1 1 1 -8 2 c 2 -1 17 1 1 -56 1 1 1 -50 1 1 1 7
   1 1 1 -74 2 1 1 -60 3 1 1 -1 3 1 1 -1 35 20 1 -20 20 10 1 -50 11 11 2 -1 2a 1b 2 -1 37 7 2
   -1 d 1 1 -f 2 30 2 -1 90 26 1 -30 b6f 2b 1 bc0 2d 3 1 bc0 2fb 6 1 -8 888 1 1 -186e 1 1 1
   -186d 1 1 1 -1864 1 2 1 -1862 2 1 1 -1863 1 1 1 -185c 1 1 1 -1825 1 1 1 89c2 f1 1 1 8a04 4
   1 1 ee6 11 1 1 8a38 73 4b 2 -1 9a 1 1 -3b 6 30 2 -1 5f 8 1 8 10 6 1 8 10 8 1 8 10 8 1 8 10
   6 1 8 11 4 2 8 f 8 1 8 10 2 1 4a 2 4 1 56 4 2 1 64 2 2 1 80 2 2 1 70 2 2 1 7e 34 2 1 8 e 1
   1 -1c25 12 2 1 8 10 2 1 8 5 1 1 7 169 1 1 -1c 22 10 1 -10 14 1 1 -1 34c 1a 1 -1a 760 30 1
   -30 31 1 1 -1 4 1 1 -2a2b 1 1 1 -2a28 2 3 2 -1 b 1 1 -1 3 1 1 -1 b 32 2 -1 6b 2 2 -1 7 1 1
   -1 d 26 1 -1c60 27 1 1 -1c60 6 1 1 -1c60 7914 17 2 -1 40 e 2 -1 a2 7 2 -1 10 1f 2 -1 47 2 2
   -1 5 5 2 -1 d 1 1 -1 5 2 2 -1 3 1 1 30 3 a 2 -1 1e 8 2 -1 13 2 2 -1 9 1 1 -1 6 2 2 -1 1f 1
   1 -1 35d 1 1 -3a0 1d 50 1 -97d0 53d1 1a 1 -20 4e7 28 1 -28 b0 24 1 -28 bf b 1 -27 c f 1 -27
   10 7 1 -27 8 2 1 -27 705 33 1 -40 c00 20 1 -20 55a0 20 1 -20 7ac2 22 1 -22"

def upperExpansions : List (Char × List Char) := expansionsOfText
  "df:53,53 149:2bc,4e 1f0:4a,30c 390:399,308,301 3b0:3a5,308,301 587:535,552 1e96:48,331
   1e97:54,308 1e98:57,30a 1e99:59,30a 1e9a:41,2be 1f50:3a5,313 1f52:3a5,313,300
   1f54:3a5,313,301 1f56:3a5,313,342 1f80:1f08,399 1f81:1f09,399 1f82:1f0a,399 1f83:1f0b,399
   1f84:1f0c,399 1f85:1f0d,399 1f86:1f0e,399 1f87:1f0f,399 1f88:1f08,399 1f89:1f09,399
   1f8a:1f0a,399 1f8b:1f0b,399 1f8c:1f0c,399 1f8d:1f0d,399 1f8e:1f0e,399 1f8f:1f0f,399
   1f90:1f28,399 1f91:1f29,399 1f92:1f2a,399 1f93:1f2b,399 1f94:1f2c,399 1f95:1f2d,399
   1f96:1f2e,399 1f97:1f2f,399 1f98:1f28,399 1f99:1f29,399 1f9a:1f2a,399 1f9b:1f2b,399
   1f9c:1f2c,399 1f9d:1f2d,399 1f9e:1f2e,399 1f9f:1f2f,399 1fa0:1f68,399 1fa1:1f69,399
   1fa2:1f6a,399 1fa3:1f6b,399 1fa4:1f6c,399 1fa5:1f6d,399 1fa6:1f6e,399 1fa7:1f6f,399
   1fa8:1f68,399 1fa9:1f69,399 1faa:1f6a,399 1fab:1f6b,399 1fac:1f6c,399 1fad:1f6d,399
   1fae:1f6e,399 1faf:1f6f,399 1fb2:1fba,399 1fb3:391,399 1fb4:386,399 1fb6:391,342
   1fb7:391,342,399 1fbc:391,399 1fc2:1fca,399 1fc3:397,399 1fc4:389,399 1fc6:397,342
   1fc7:397,342,399 1fcc:397,399 1fd2:399,308,300 1fd3:399,308,301 1fd6:399,342
   1fd7:399,308,342 1fe2:3a5,308,300 1fe3:3a5,308,301 1fe4:3a1,313 1fe6:3a5,342
   1fe7:3a5,308,342 1ff2:1ffa,399 1ff3:3a9,399 1ff4:38f,399 1ff6:3a9,342 1ff7:3a9,342,399
   1ffc:3a9,399 fb00:46,46 fb01:46,49 fb02:46,4c fb03:46,46,49 fb04:46,46,4c fb05:53,54
   fb06:53,54 fb13:544,546 fb14:544,535 fb15:544,53b fb16:54e,546 fb17:544,53d"

def foldRuns : CaseRuns := .ofText
  "b5 1 1 307 b 17 1 20 18 7 1 20 28 18 2 1 32 3 2 1 7 8 2 1 11 17 2 1 2e 1 1 -79 1 3 2 1 6 1
   1 -10c 2 1 1 d2 1 2 2 1 4 1 1 ce 1 1 1 1 2 2 1 cd 2 1 1 1 3 1 1 4f 1 1 1 ca 1 1 1 cb 1 1 1
   1 2 1 1 cd 1 1 1 cf 2 1 1 d3 1 1 1 d1 1 1 1 1 4 1 1 d3 1 1 1 d5 2 1 1 d6 1 3 2 1 6 1 1 da 1
   1 1 1 2 1 1 da 3 1 1 1 2 1 1 da 1 1 1 1 2 2 1 d9 2 2 2 1 4 1 1 db 1 1 1 1 4 1 1 1 8 1 1 2 1
   1 1 1 2 1 1 2 1 1 1 1 2 1 1 2 1 9 2 1 13 9 2 1 13 1 1 2 1 2 2 1 4 1 1 -61 1 1 1 -38 1 14 2
   1 28 1 1 -82 2 9 2 1 18 1 1 2a2b 1 1 1 1 2 1 1 -a3 1 1 1 2a28 3 1 1 1 2 1 1 -c3 1 1 1 45 1
   1 1 47 1 5 2 1 ff 1 1 74 2b 2 2 1 6 1 1 1 9 1 1 74 7 1 1 26 2 3 1 25 4 1 1 40 2 2 1 3f 3 11
   1 20 12 9 1 20 1f 1 1 1 d 1 1 8 1 1 1 -1e 1 1 1 -19 4 1 1 -f 1 1 1 -16 2 c 2 1 18 1 1 -36 1
   1 1 -30 3 1 1 -3c 1 1 1 -40 2 1 1 1 2 1 1 -7 1 1 1 1 3 3 1 -82 3 10 1 50 10 20 1 20 50 11 2
   1 2a 1b 2 1 36 1 1 f 1 7 2 1 f 30 2 1 61 26 1 30 b6f 26 1 1c60 27 1 1 1c60 6 1 1 1c60 32b 6
   1 -8 888 1 1 -184e 1 1 1 -184d 1 1 1 -1844 1 2 1 -1842 2 1 1 -1843 1 1 1 -183c 1 1 1 -1824
   1 1 1 89c3 8 2b 1 -bc0 2d 3 1 -bc0 143 4b 2 1 9b 1 1 -3a 3 1 1 -1dbf 2 30 2 1 68 8 1 -8 10
   6 1 -8 10 8 1 -8 10 8 1 -8 10 6 1 -8 11 4 2 -8 f 8 1 -8 20 8 1 -8 10 8 1 -8 10 8 1 -8 10 2
   1 -8 2 2 1 -4a 2 1 1 -9 2 1 1 -1c05 a 4 1 -56 4 1 1 -9 c 2 1 -8 2 2 1 -64 e 2 1 -8 2 2 1
   -70 2 1 1 -7 c 2 1 -80 2 2 1 -7e 2 1 1 -9 12a 1 1 -1d5d 4 1 1 -20bf 1 1 1 -2046 7 1 1 1c 2e
   10 1 10 23 1 1 1 333 1a 1 1a 74a 30 1 30 60 1 1 1 2 1 1 -29f7 1 1 1 -ee6 1 1 1 -29e7 3 3 2
   1 6 1 1 -2a1c 1 1 1 -29fd 1 1 1 -2a1f 1 1 1 -2a1e 2 1 1 1 3 1 1 1 9 2 1 -2a3f 2 32 2 1 6b 2
   2 1 7 1 1 1 794e 17 2 1 40 e 2 1 a2 7 2 1 10 1f 2 1 47 2 2 1 4 1 1 -8a04 1 5 2 1 d 1 1 1 2
   1 1 -a528 3 2 2 1 6 a 2 1 14 1 1 -a544 1 1 1 -a54f 1 1 1 -a54b 1 1 1 -a541 1 1 1 -a544 2 1
   1 -a512 1 1 1 -a52a 1 1 1 -a515 1 1 1 3a0 1 8 2 1 10 1 1 -30 1 1 1 -a543 1 1 1 -8a38 1 2 2
   1 9 1 1 1 6 2 2 1 1f 1 1 1 37b 50 1 -97d0 53b1 1a 1 20 4df 28 1 28 b0 24 1 28 c0 b 1 27 c f
   1 27 10 7 1 27 8 2 1 27 6ec 33 1 40 c20 20 1 20 55a0 20 1 20 7ac0 22 1 22"

end GigListings.Text
