import SourceAtlas.Python.Automaton.Templates

/-! States 2400 to 2830 of the automaton, one number for each. -/
namespace SourceAtlas.Python.Automaton

def rows2400 : Array Nat := #[
  0x23b13e000c0112303a59086a06d1, 0x23b13e000c0112303a59106a06d1, 0xc65ab4e784820c047000c010731,
  0x240975000c0151c08516c83a06e1, 0x241d76000c0131107113203a06c1, 0x25952f000c010284ae82a83a06e1,
  0x25ad43000c0110d03a31286a06d1, 0x25b143000c0110d83a31306a06d1, 0x25b960000c012cd86f13f03a06f1,
  0x2a5991000c0151e87147988506c1, 0xc79ab4e784820c047000c010731, 0x245543000c0110e03a31406a06d1,
  0x245543000c0110e83a31486a06d1, 0x245960000c012ce86f13f83a06f1, 0x245960000c012cf06f14003a06f1,
  0x2a5d91000c0152087147988506c1, 0x246183000c0145e86f0f203a06f1, 0x25d198000c014c687138e83a06c1,
  0x252186000c0137e03a4c886a06d1, 0x254986000c014c906f37e83a06f1, 0x248998000c014ca87138f83a06c1,
  0x248998000c014cb87139003a06c1, 0x252186000c0137f83a4ce86a06d1, 0x25e9a81d0047000c010c69a70691,
  0x23b13e000c0112303a31906a06d1, 0x25f576000c0131a87113303a06c1, 0x23dda81d1047000c010c71a70691,
  0x23b13e000c0112303a59586a06d1, 0x23b13e000c0112303a59606a06d1, 0x241d76000c0131d07113383a06c1,
  0x260543000c0111083a31e86a06d1, 0x260943000c0111103a31f06a06d1, 0x261160000c012ad86f14083a06f1,
  0x245543000c0111183a32006a06d1, 0x245543000c0111203a32086a06d1, 0x245960000c012af86f14103a06f1,
  0x245960000c012b006f14183a06f1, 0x246183000c0149a06f0f303a06f1, 0x262598000c014d287139103a06c1,
  0x252186000c0138283a4d486a06d1, 0x254986000c014d506f38303a06f1, 0x248998000c014d687139203a06c1,
  0x248998000c014d787139283a06c1, 0x252186000c0138403a4da86a06d1, 0x263da81d3847000c010c79a70691,
  0x23b13e000c0112303a32706a06d1, 0x264176000c0132a07113483a06c1, 0x23dda81d4047000c010c81a70691,
  0x241d76000c0132d07113503a06c1, 0x265143000c0111403a32e86a06d1, 0x265543000c0111483a32f06a06d1,
  0x265d60000c0132f86f14203a06f1, 0x245543000c0111503a33086a06d1, 0x245543000c0111583a33106a06d1,
  0x245960000c0133206f14283a06f1, 0x245960000c0133286f14303a06f1, 0x246183000c0146e06f0f403a06f1,
  0x267198000c014de07139383a06c1, 0x252186000c0138703a4e006a06d1, 0x254986000c014e086f38783a06f1,
  0x248998000c014e207139483a06c1, 0x248998000c014e307139503a06c1, 0x252186000c0138883a4e606a06d1,
  0x2689a81d6047000c010c89a70691, 0x23b13e000c0112303a2dd86a06d1, 0x268d76000c012df07113583a06c1,
  0x23dda81d6847000c010c91a70691, 0x241d76000c012e187113603a06c1, 0x269d43000c0111783a2e306a06d1,
  0x26a143000c0111803a2e386a06d1, 0x26a960000c0133786f14383a06f1, 0x245543000c0111883a2e486a06d1,
  0x245543000c0111903a2e506a06d1, 0x245960000c0133886f14403a06f1, 0x245960000c0133906f14483a06f1,
  0x26b9a8597047000c010c99a70691, 0x23b13e000c0112303a2eb06a06d1, 0x26bd76000c012ec87113683a06c1,
  0x23dda8597847000c010ca1a70691, 0x241d76000c012ef07113703a06c1, 0x26cd43000c0111b03a2f086a06d1,
  0x26d143000c0111b83a2f106a06d1, 0x26d960000c0128806f14503a06f1, 0x245543000c0111c03a2f206a06d1,
  0x245543000c0111c83a2f286a06d1, 0x245960000c0128a06f14583a06f1, 0x245960000c0128a86f14603a06f1,
  0x26e9a81d8847000c010ca9a70691, 0x23b13e000c0112303a34306a06d1, 0x26ed76000c0134487113783a06c1,
  0x23dda81d9047000c010cb1a70691, 0x241d76000c0134707113803a06c1, 0x26fd43000c0111e03a34886a06d1,
  0x270143000c0111e83a34906a06d1, 0x270960000c012f506f14683a06f1, 0x245543000c0111f03a34a06a06d1,
  0x245543000c0111f83a34a86a06d1, 0x245960000c012f606f14703a06f1, 0x245960000c012f686f14783a06f1,
  0x2719a81db047000c010cb9a70691, 0x23b13e000c0112303a35f86a06d1, 0x271d76000c0136107113883a06c1,
  0x23dda81db847000c010cc1a70691, 0x241d76000c0136387113903a06c1, 0x272d43000c0112103a36506a06d1,
  0x273143000c0112183a36586a06d1, 0x273960000c0134c86f14803a06f1, 0x245543000c0112203a36686a06d1,
  0x245543000c0112283a36706a06d1, 0x245960000c0134d86f14883a06f1, 0x245960000c0134e06f14903a06f1,
  0x274560000c0136906f14983a06f1, 0x245960000c0136a06f14a03a06f1, 0x245960000c0136a86f14a83a06f1,
  0x275160000c0137006f14b03a06f1, 0x245960000c0137106f14b83a06f1, 0x245960000c0137186f14c03a06f1,
  0x2bf98f000c010bc8850f900606e1, 0x257d2f000c0115c0ae20983a06e1, 0x257d2f000c0115c8ae20983a06e1,
  0xc010f88b60a78855b28b208ea, 0xc010f88b60a80855b28b208ea, 0xc010f88b60a88855b28b208ea,
  0xc010f88b60a90855b28b208ea, 0x257d2f000c0115e8ae20983a06e1, 0x257d2f000c0115f0ae20983a06e1,
  0x257d2f000c0116e8ae20983a06e1, 0x257d2f000c0116f0ae20983a06e1, 0xc01049c820491, 0xc0104a0820491,
  0xc0104a4820491, 0xc0102c0820491, 0xc0104a8820491, 0xc0102f4820491, 0xc0102f8820491,
  0xc0104ac4404e1, 0xc0104684404e1, 0xc0104684404e1, 0xc0102d0820491, 0x1ead2f000c011d083a04e1,
  0xc010fa1b00ae88506ed, 0x27f19f000c013c600604e1, 0xc010480820491, 0xc010344820491,
  0xc0104b0820491, 0xc0104b4820491, 0xc0104b8820491, 0xc0104bc820491, 0xc0104bc820491,
  0xc0104c06104d1, 0xc0104c46104d1, 0xc01034c6104d1, 0xc010fa9b00b008506ed,
  0x28019f000c013c600604e1, 0xc0104884404e1, 0xc0104c9b104ed, 0xc010fb1b00b208506ed,
  0xc01048d8104c1, 0xc0104904404e1, 0xc0104cdb20521, 0xc010fb9b00b408506ed, 0xc0104d1b104ed,
  0xc0104d4820491, 0xc01036c6104d1, 0xc0104d86104d1, 0xc01032c6404f1, 0xc0104dc820491,
  0xc0104e0820491, 0xc014819b304e1, 0xc0142c92204e1, 0xc0148812204e1, 0xc0148a92204e1,
  0xc0104e5b20521, 0xc0104658104c1, 0xc0104e9b20521, 0xc0104edb20521, 0xc0104e9b20521,
  0xc0104f1b20521, 0xc0104f5b20521, 0xc0104f1b20521, 0xc0104f5b20521, 0xc0104f9b20521,
  0xc0104f9b20521, 0xc0104fdb20521, 0xc010501b20521, 0xc01009c6104d1, 0xc0104ac6104d1,
  0xc0104686104d1, 0xc0102d06104d1, 0xc01028c6104d1, 0xc0102846104d1, 0xc01044c6104d1,
  0xc0104846104d1, 0xc0104c06404f1, 0xc0104c46404f1, 0xc01034c6404f1, 0xc0104886104d1,
  0xc0104906104d1, 0xc01009c6404f1, 0xc0102d06404f1]

def rows2600 : Array Nat := #[
  0xc0102886404f1, 0xc01028c6404f1, 0xc0102846404f1, 0xc0104c18104c1, 0xc0104c58104c1,
  0xc01034d8104c1, 0xc0100edb20521, 0xc0100f1b20521, 0xc010121b20521, 0xc0100f5b20521,
  0xc010125b20521, 0xc014c41b304e1, 0xc0146092204e1, 0xc014c792204e1, 0xc014c992204e1,
  0xc014d01b304e1, 0xc0146712204e1, 0xc014d392204e1, 0xc014d592204e1, 0xc014a29b304e1,
  0xc0146e92204e1, 0xc014df12204e1, 0xc014e112204e1, 0xc011061b00bc08506ed, 0xc011069b00bd88506ed,
  0xc011071b00bf88506ed, 0xc011079b00c188506ed, 0x29059f000c013c600604e1, 0x29099f000c013c600604e1,
  0xc010ab88504e1, 0xc014af80304e1, 0xc014b000304e1, 0xc014b080304e1, 0xc0147480304e1,
  0xc0100040204e1, 0xc0117583c04e2, 0xc0147680404e1, 0xc0142580404e1, 0xc013be06a04d1,
  0xc0129106a04d1, 0xc014b500304e1, 0xc011688ae04e1, 0xc010ad08504e1, 0xc0147780304e1,
  0xc013be86f04f1, 0xc0129186f04f1, 0xc0129207104c1, 0xc0129287104c1, 0xc0117a88504e1,
  0xc0105048504e1, 0xc011bc80304e1, 0xc012378ae04e1, 0xc015a801704e1, 0xc0147a00304e1,
  0xc014fe80304e1, 0xc0105080404e1, 0xc011ee81304e1, 0xc0129506a04d1, 0xc011698ae04e1,
  0xc010ae08504e1, 0xc0150300304e1, 0xc0147b80304e1, 0xc010af88504e1, 0xc0129586f04f1,
  0xc0129687104c1, 0xc0129707104c1, 0xc0129786a04d1, 0xc0144607104c1, 0xc011540ae04e1,
  0xc010b088504e1, 0xc010b188504e1, 0xc0100848504e1, 0xc0158086a04d1, 0xc010b288504e1,
  0xc0144a07104c1, 0xc0144a87104c1, 0xc0158306a04d1, 0xc0158386a04d1, 0xc011558ae04e1,
  0xc010b308504e1, 0xc010b388504e1, 0xc01050c8504e1, 0xc0144e87104c1, 0xc0105108504e1,
  0xc0115788504e1, 0xc014bf80304e1, 0xc010b708504e1, 0xc010b808504e1, 0xc010b908504e1,
  0xc0118403c04e2, 0xc0151706a04d1, 0xc0130b86a04d1, 0xc0145700304e1, 0xc0158e86f04f1,
  0xc0130c86f04f1, 0xc0130d07104c1, 0xc0130d87104c1, 0xc0118688504e1, 0xc012cd00304e1,
  0xc0123d0ae04e1, 0xc0141280304e1, 0xc0159000304e1, 0xc0131006a04d1, 0xc0145a00304e1,
  0xc0131086f04f1, 0xc0131187104c1, 0xc0131207104c1, 0xc0131286a04d1, 0xc0151f07104c1,
  0xc0152107104c1, 0xc0152187104c1, 0xc0152287104c1, 0xc0152380304e1, 0xc0118a03c04e2,
  0xc0159406a04d1, 0xc0131986a04d1, 0xc0149600304e1, 0xc0159486f04f1, 0xc0131a06f04f1,
  0xc0131a87104c1, 0xc0131b07104c1, 0xc0118c88504e1, 0xc012a900304e1, 0xc012420ae04e1,
  0xc0146400304e1, 0xc0131c06a04d1, 0xc0149700304e1, 0xc0131c86f04f1, 0xc0131d87104c1,
  0xc0131e07104c1, 0xc0131e86a04d1, 0xc0152880304e1, 0xc0118e03c04e2, 0xc0149f86a04d1,
  0xc0132786a04d1, 0xc0146900304e1, 0xc014a006f04f1, 0xc0132986f04f1, 0xc0132a07104c1,
  0xc0132a87104c1, 0xc0119008504e1, 0xc0132b00304e1, 0xc012470ae04e1, 0xc0146b00304e1,
  0xc0132c06a04d1, 0xc0146b80304e1, 0xc0132c86f04f1, 0xc0132d87104c1, 0xc0132e07104c1,
  0xc0132e86a04d1, 0xc0152c00304e1, 0xc0119183c04e2, 0xc013b186a04d1, 0xc012de06a04d1,
  0xc013b206f04f1, 0xc012de86f04f1, 0xc012df07104c1, 0xc012df87104c1, 0xc0119388504e1,
  0xc0133700304e1, 0xc0124c0ae04e1, 0xc0147000304e1, 0xc012e086a04d1, 0xc012e106f04f1,
  0xc012e207104c1, 0xc012e287104c1, 0xc012e306a04d1, 0xc0119503c04e2, 0xc012eb86a04d1,
  0xc012ec06f04f1, 0xc012ec87104c1, 0xc012ed07104c1, 0xc0119708504e1, 0xc0128380304e1,
  0xc012510ae04e1, 0xc012ee06a04d1, 0xc012ee86f04f1, 0xc012ef87104c1, 0xc012f007104c1,
  0xc012f086a04d1, 0xc0119883c04e2, 0xc0134386a04d1, 0xc0134406f04f1, 0xc0134487104c1,
  0xc0134507104c1, 0xc0119a88504e1, 0xc012f480304e1, 0xc012560ae04e1, 0xc0134606a04d1,
  0xc0134686f04f1, 0xc0134787104c1, 0xc0134807104c1, 0xc0134886a04d1, 0xc0119c03c04e2,
  0xc0136006a04d1, 0xc0136086f04f1, 0xc0136107104c1, 0xc0136187104c1, 0xc0119e08504e1,
  0xc0134c00304e1]

def rows2800 : Array Nat := #[
  0xc0125b0ae04e1, 0xc0136286a04d1, 0xc0136306f04f1, 0xc0136407104c1, 0xc0136487104c1,
  0xc0136506a04d1, 0xc0136880304e1, 0xc0136f80304e1, 0xc010ba88504e1, 0xc010bb88504e1,
  0xc010bd08504e1, 0xc0115c0ae04e1, 0xc010be08504e1, 0xc010bf08504e1, 0xc010c008504e1,
  0xc0115c8ae04e1, 0xc010c088504e1, 0xc010c108504e1, 0xc0115d88504e1, 0xc0115e8ae04e1,
  0xc0115f0ae04e1, 0xc0116008504e1, 0xc010c408504e1, 0xc014ab80304e1, 0xc014ed00304e1,
  0xc014ed80304e1, 0xc0116e8ae04e1, 0xc0160481704e1, 0xc0122701304e1, 0xc0116f0ae04e1,
  0xc0122801304e1]

end SourceAtlas.Python.Automaton
